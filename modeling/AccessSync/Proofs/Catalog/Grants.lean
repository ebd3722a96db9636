import AccessSync.Catalog
import AccessSync.Proofs.Directory.Frame

/-!
# Which entitlements grants name

The entitlements of a resource and its grants are computed apart.  Here each phase of each kind is
followed to the resource and the slug of its grants, and those are found among the entitlements of
the resource.  An application can do without one: users need not be allowed the role of an
assignment, and then no entitlement stands for the role.
-/

namespace AccessSync

open Enumeration (Yields)

/-! ## Decisions on records -/

theorem servicePrincipalVerdict_granted {resource : ResourceId} {slug subtype principal : String}
    {grantId : String} {recordId : Value} {grant : Grant}
    (granted : servicePrincipalVerdict resource slug subtype principal grantId recordId =
      .granted grant) : grant.resource = resource ∧ grant.slug = slug := by
  unfold servicePrincipalVerdict at granted
  split at granted
  next =>
    cases granted
    exact ⟨rfl, rfl⟩
  next => cases granted

theorem Membership.verdict_granted {m : Membership} {resource : ResourceId} {slug : String}
    {strict acceptGroups : Bool} {grant : Grant}
    (granted : m.verdict resource slug strict acceptGroups = .granted grant) :
    grant.resource = resource ∧ grant.slug = slug := by
  unfold Membership.verdict at granted
  split at granted
  next =>
    cases granted
    exact ⟨rfl, rfl⟩
  next =>
    split at granted
    next =>
      cases granted
      exact ⟨rfl, rfl⟩
    next =>
      split at granted
      next => exact servicePrincipalVerdict_granted granted
      next => split at granted <;> cases granted

theorem Principal.verdict_granted {p : Principal} {resource : ResourceId} {slug id : String}
    {grantId : String} {grant : Grant}
    (granted : p.verdict resource slug id grantId = .granted grant) :
    grant.resource = resource ∧ grant.slug = slug := by
  cases p with
  | user =>
    cases granted
    exact ⟨rfl, rfl⟩
  | group =>
    cases granted
    exact ⟨rfl, rfl⟩
  | servicePrincipal subtype => exact servicePrincipalVerdict_granted granted
  | unknown => cases granted

theorem RoleAssignment.grant_ok {a : RoleAssignment} {resource : ResourceId} {subscription : String}
    {grant : Grant} (granted : a.grant resource subscription = .ok grant) :
    grant.resource = resource ∧ grant.slug = Slug.assignment := by
  unfold RoleAssignment.grant at granted
  cases role : roleOfDefinitionId a.roleDefinitionId with
  | error fault => simp [role, Except.map] at granted
  | ok name =>
    simp only [role, Except.map, Except.ok.injEq] at granted
    subst granted
    exact ⟨rfl, rfl⟩

/-! ## Exposed actions -/

namespace ActionMap

theorem exposed_of_covered? {m : ActionMap} {operation : String} {actions : List String}
    (covered : m.covered? operation = some actions) : ∀ action ∈ actions, action ∈ m.exposed := by
  simp only [covered?] at covered
  split at covered
  next =>
    cases covered
    exact fun _ member => member
  next =>
    split at covered
    next =>
      split at covered
      next contained =>
        cases covered
        simpa using contained
      next =>
        cases covered
        simp
    next =>
      split at covered
      next =>
        cases covered
        simp
      next =>
        split at covered
        next =>
          cases covered
          exact fun _ member => member
        next =>
          split at covered
          next contained =>
            cases covered
            simpa using contained
          next => cases covered

theorem exposed_of_ofPermissions {m : ActionMap} {blocks : List Permission} {action : String}
    (permitted : action ∈ m.ofPermissions blocks) : action ∈ m.exposed := by
  rw [ofPermissions, ascending, List.mem_mergeSort, List.mem_eraseDups, List.mem_filter] at permitted
  obtain ⟨operation, -, covered⟩ := List.mem_flatMap.mp permitted.1
  cases actions : m.covered? operation with
  | none => simp [actions] at covered
  | some found =>
    rw [actions, Option.getD_some] at covered
    exact exposed_of_covered? actions action covered

end ActionMap

namespace Connector

/-! ## Phases -/

variable {P : Session → Prop} {ι : Type} {Q : ι → Prop}

theorem yields_directoryPhase (reads : ReadsRecords P) (c : Connector) (tag firstUrl : String)
    {translate : List Value → Act (List ι)}
    (each : ∀ records, Ensures P (translate records) fun items => ∀ item ∈ items, Q item) :
    Yields P (c.directoryPhase tag firstUrl translate) Q := by
  refine ⟨fun _ => True, fun token => ?_, fun records _ => each records⟩
  refine (Directory.keeps_fetchPage reads c.world c.directory _).bind fun page _ => ?_
  exact Ensures.reading fun _ _ _ _ => trivial

theorem mem_of_mem_range {ρ : Type} {records : List ρ} {first last : Int} {record : ρ}
    (member : record ∈ range records first last) : record ∈ records :=
  List.mem_of_mem_drop (List.mem_of_mem_take member)

theorem yields_markerPhase {ρ : Type} {F : ρ → Prop} (tag : String) (size : Int)
    {loadAll : Act (List ρ)} {translate : List ρ → Act (List ι)}
    (loads : Ensures P loadAll fun records => ∀ record ∈ records, F record)
    (each : ∀ records, (∀ record ∈ records, F record) →
      Ensures P (translate records) fun items => ∀ item ∈ items, Q item) :
    Yields P (markerPhase tag size loadAll translate) Q := by
  refine ⟨F, fun token => loads.bind fun records holds => ?_, each⟩
  split
  next => exact Ensures.pure fun record member => holds record (mem_of_mem_range member)
  next => exact Ensures.throw _

end Connector

namespace Catalog

variable {P : Session → Prop} {c : Connector} {resource : Resource}

/-- One of the entitlements is the one that the grant names. -/
def Names (entitlements : List Entitlement) (grant : Grant) : Prop :=
  ∃ e ∈ entitlements, e.resource = grant.resource ∧ e.id = grant.entitlementId

theorem names_of_slug {entitlements : List Entitlement} {grant : Grant} {e : Entitlement}
    (member : e ∈ entitlements) (resource : e.resource = grant.resource)
    (slug : e.slug = grant.slug) : Names entitlements grant :=
  ⟨e, member, resource, by rw [Entitlement.id, Grant.entitlementId, resource, slug]⟩

/-- The grant is of the resource and names one of the entitlements. -/
def Entitled (resource : Resource) (entitlements : List Entitlement) (grant : Grant) : Prop :=
  grant.resource = resource.id ∧ Names entitlements grant

theorem readsRecords_true : ReadsRecords fun _ => True := fun _ _ _ _ => trivial

/-! ## Groups -/

theorem ensures_translateMemberships (reads : ReadsRecords P) (type : ResourceType)
    (resource : ResourceId) (slug : String) (strict acceptGroups : Bool) (records : List Value) :
    Ensures P (Group.translateMemberships type resource slug strict acceptGroups records)
      fun grants => ∀ grant ∈ grants, grant.resource = resource ∧ grant.slug = slug := by
  refine Ensures.filterMap fun record _ => ?_
  refine (keeps_reading _).bind fun membership _ => ?_
  exact keeps_settle reads _ type fun grant granted => Membership.verdict_granted granted

theorem ensures_memberships (c : Connector) (group : Resource) (text : String) :
    Ensures (fun _ => True) (Group.grants c c.context group text) fun result =>
      ∀ grant ∈ result.1, grant.resource = group.id ∧
        (grant.slug = Slug.owners ∨ grant.slug = Slug.members) := by
  have phase (slug url : String) (strict : Bool) :=
    Connector.yields_directoryPhase readsRecords_true c slug url
      (ensures_translateMemberships readsRecords_true .group group.id slug strict true)
  refine Enumeration.ensures_step (Enumeration.stable_true _) ?_ text
  simp only [List.forall_mem_cons]
  refine ⟨?owners, ?members, by simp⟩
  case owners => exact (phase Slug.owners _ true).weaken fun grant own => ⟨own.1, .inl own.2⟩
  case members => exact (phase Slug.members _ false).weaken fun grant own => ⟨own.1, .inr own.2⟩

theorem ensures_groupGrants (c : Connector) (group : Resource) (text : String) :
    Ensures (fun _ => True) (Group.grants c c.context group text) fun result =>
      ∀ grant ∈ result.1, Entitled group (Group.entitlements group) grant := by
  refine (ensures_memberships c group text).weaken fun result each grant member => ?_
  obtain ⟨resource, owner | member⟩ := each grant member
  · exact ⟨resource, names_of_slug List.mem_cons_self resource.symm owner.symm⟩
  · exact ⟨resource, names_of_slug (List.mem_cons_of_mem _ List.mem_cons_self) resource.symm
      member.symm⟩

/-! ## Role assignments -/

theorem yields_assignments (c : Connector) (resource : ResourceId) (subscription scope : String) :
    Yields (fun _ => True) (ResourceGroup.assignments c resource subscription scope)
      fun grant => grant.resource = resource ∧ grant.slug = Slug.assignment := by
  refine ⟨fun _ => True, fun token => ?_, fun records _ => Ensures.mapM fun assignment _ => ?_⟩
  · exact (keeps_true _).weaken fun _ _ _ _ => trivial
  · exact Ensures.decoding fun grant granted => RoleAssignment.grant_ok granted

theorem ensures_resourceGroupGrants (c : Connector) (group : Resource) (text : String) :
    Ensures (fun _ => True) (ResourceGroup.grants c c.context group text) fun result =>
      ∀ grant ∈ result.1, Entitled group (ResourceGroup.entitlements group) grant := by
  refine (keeps_true (Run.decoding _)).bind fun parts _ => ?_
  refine Enumeration.ensures_step (Enumeration.stable_true _) ?_ text
  simp only [List.forall_mem_cons]
  refine ⟨(yields_assignments c group.id _ _).weaken fun grant own => ⟨own.1, ?_⟩, by simp⟩
  exact names_of_slug List.mem_cons_self own.1.symm own.2.symm

/-! ## Roles -/

/-- Nobody is listed as an owner of a role. -/
theorem ensures_holders (c : Connector) (role : Resource) (text : String) :
    Ensures (fun _ => True) (Role.grants c c.context role text) fun result =>
      ∀ grant ∈ result.1, grant.resource = role.id ∧ grant.slug = Slug.assigned := by
  have holder (assignment : RoleAssignment) : Ensures (fun _ => True)
      (Role.holderGrant c role.id assignment) fun found => ∀ grant ∈ found,
        grant.resource = role.id ∧ grant.slug = Slug.assigned :=
    (keeps_true (c.principal _)).bind fun principal _ =>
      keeps_settle readsRecords_true _ .role fun grant granted => Principal.verdict_granted granted
  refine (keeps_true (Run.decoding _)).bind fun parts _ => ?_
  refine (keeps_true (Run.reading _)).bind fun size _ => ?_
  refine Enumeration.ensures_step (Enumeration.stable_true _) ?_ text
  have loads : Ensures (fun _ => True) (c.index.assignments parts.2 parts.1 none)
      fun assignments => ∀ assignment ∈ assignments, True :=
    (keeps_true _).weaken fun _ _ _ _ => trivial
  have phase := Connector.yields_markerPhase Slug.assigned size loads
    fun assignments _ => Ensures.filterMap fun assignment (_ : assignment ∈ assignments) =>
      holder assignment
  simp only [List.forall_mem_cons]
  exact ⟨phase, by simp⟩

theorem ensures_roleGrants (c : Connector) (role : Resource) (text : String) :
    Ensures (fun _ => True) (Role.grants c c.context role text) fun result =>
      ∀ grant ∈ result.1, Entitled role (Role.entitlements role) grant := by
  refine (ensures_holders c role text).weaken fun result each grant member => ?_
  obtain ⟨resource, slug⟩ := each grant member
  exact ⟨resource, names_of_slug (List.mem_cons_of_mem _ List.mem_cons_self) resource.symm
    slug.symm⟩

/-! ## Storage -/

theorem ensures_translateRoles (c : Connector) (kind : StorageKind) (resource : ResourceId)
    (subscription scope : String) (roles : List String) :
    Ensures (fun _ => True) (Storage.translateRoles c kind resource subscription scope roles)
      fun grants => ∀ grant ∈ grants,
        grant.resource = resource ∧ grant.slug ∈ kind.actions.exposed := by
  have each (role : String) : Ensures (fun _ => True)
      (Storage.actionGrants c kind resource subscription scope role) fun grants =>
        ∀ grant ∈ grants, grant.resource = resource ∧ grant.slug ∈ kind.actions.exposed := by
    refine (keeps_true (c.index.representative? _ _ _)).bind fun found _ => ?_
    cases found with
    | none => exact Ensures.pure (by simp)
    | some assignment =>
      refine (keeps_true (Storage.roleDefinition c _)).bind fun definition _ => Ensures.pure ?_
      intro grant member
      obtain ⟨action, permitted, rfl⟩ := List.mem_map.mp member
      exact ⟨rfl, ActionMap.exposed_of_ofPermissions permitted⟩
  refine (Ensures.mapM fun role _ => each role).bind fun lists holds => Ensures.pure ?_
  intro grant member
  obtain ⟨grants, listed, granted⟩ := List.mem_flatten.mp member
  exact holds grants listed grant granted

theorem ensures_storageGrants (c : Connector) (kind : StorageKind) (resource : Resource)
    (text : String) :
    Ensures (fun _ => True) (Storage.grants c kind c.context resource text) fun result =>
      ∀ grant ∈ result.1, Entitled resource (Storage.entitlements kind resource) grant := by
  refine (keeps_true (Run.decoding _)).bind fun parts _ => ?_
  refine (keeps_true (Run.reading _)).bind fun size _ => ?_
  refine Enumeration.ensures_step (Enumeration.stable_true _) ?_ text
  simp only [List.forall_mem_cons]
  refine ⟨?assignments, ?actions, by simp⟩
  case assignments =>
    refine (yields_assignments c resource.id _ _).weaken fun grant own => ⟨own.1, ?_⟩
    exact names_of_slug List.mem_cons_self own.1.symm own.2.symm
  case actions =>
    have loads : Ensures (fun _ => True) (c.index.roles parts.1 (some parts.2))
        fun roles => ∀ role ∈ roles, True :=
      (keeps_true _).weaken fun _ _ _ _ => trivial
    have phase := Connector.yields_markerPhase Storage.actionPhase size loads
      fun roles _ => ensures_translateRoles c kind resource.id parts.1 parts.2 roles
    refine phase.weaken fun grant own => ⟨own.1, ?_⟩
    exact names_of_slug (List.mem_cons_of_mem _ (List.mem_map.mpr ⟨grant.slug, own.2, rfl⟩))
      own.1.symm rfl

end Catalog

end AccessSync
