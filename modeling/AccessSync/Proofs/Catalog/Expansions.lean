import AccessSync.Proofs.Catalog.Provenance

/-!
# What expansions point to

A grant to a group or a role tells by which entitlements its holders are found.  It names them by
identifiers that it writes itself, wherever it is made, and the kind of the principal writes those
of its entitlements for itself.  Here every place that makes a grant is followed, and the two
spellings are compared.
-/

namespace AccessSync.Catalog

open Enumeration (Yields)

/-! ## Targets -/

/-- The kinds of principals that stand for nobody else. -/
def plainTypes : List ResourceType := [.user, .enterpriseApplication, .managedIdentity]

/-- The kind of the resource lists an entitlement of this identifier for the resource, at any
time. -/
def ListsEntitlement (c : Connector) (resource : ResourceId) (id : String) : Prop :=
  ∀ (holder : Resource) (s : Session), holder.id = resource →
    ∃ listed, entitlements c resource.type holder s = (.ok listed, s) ∧ ∃ e ∈ listed, e.id = id

/-- The principal of the grant is of a kind that can hold access, the grant has an expansion just if
the principal is a group or a role, and the expansion names entitlements that are listed for the
principal. -/
structure WellTargeted (c : Connector) (grant : Grant) : Prop where
  holds : grant.principal.type ∈ plainTypes ++ [.group, .role]
  expandable : grant.expandable = true ↔
    grant.principal.type = .group ∨ grant.principal.type = .role
  targets : ∀ hint ∈ grant.expansion, hint.entitlementIds ≠ [] ∧
    ∀ id ∈ hint.entitlementIds, ListsEntitlement c grant.principal id

variable {c : Connector} {grant : Grant}

theorem lists_members (c : Connector) (group : String) :
    ListsEntitlement c ⟨.group, group⟩ (entitlementId ⟨.group, group⟩ Slug.members) := by
  intro holder s same
  refine ⟨_, rfl, _, List.mem_cons_of_mem _ List.mem_cons_self, ?_⟩
  rw [Entitlement.id, same]

theorem lists_holders (c : Connector) (role : String) :
    ∀ id ∈ (roleHolders role).entitlementIds, ListsEntitlement c ⟨.role, role⟩ id := by
  intro id member holder s same
  have listed : entitlements c .role holder s = (.ok (Role.entitlements holder), s) := rfl
  refine ⟨_, listed, ?_⟩
  simp only [roleHolders, List.mem_cons, List.not_mem_nil, or_false] at member
  obtain rfl | rfl := member
  · refine ⟨_, List.mem_cons_self, ?_⟩
    rw [Entitlement.id, same]
  · refine ⟨_, List.mem_cons_of_mem _ List.mem_cons_self, ?_⟩
    rw [Entitlement.id, same]

namespace WellTargeted

theorem plain (type : grant.principal.type ∈ plainTypes) (hint : grant.expansion = none) :
    WellTargeted c grant where
  holds := List.mem_append_left _ type
  expandable := by
    rw [Grant.expandable, hint]
    simp only [plainTypes, List.mem_cons, List.not_mem_nil, or_false] at type
    obtain same | same | same := type <;> simp [same]
  targets := by simp [hint]

theorem group {group : String} {shallow userOnly : Bool}
    (principal : grant.principal = ⟨.group, group⟩)
    (hint : grant.expansion = some (groupMembers group shallow userOnly)) :
    WellTargeted c grant where
  holds := by simp [principal]
  expandable := by simp [Grant.expandable, principal, hint]
  targets := by
    intro found same
    cases hint.symm.trans same
    rw [principal]
    refine ⟨by simp [groupMembers], ?_⟩
    simpa [groupMembers] using lists_members c group

theorem role {role : String} (principal : grant.principal = ⟨.role, role⟩)
    (hint : grant.expansion = some (roleHolders role)) : WellTargeted c grant where
  holds := by simp [principal]
  expandable := by simp [Grant.expandable, principal, hint]
  targets := by
    intro found same
    cases hint.symm.trans same
    rw [principal]
    exact ⟨by simp [roleHolders], lists_holders c role⟩

end WellTargeted

/-! ## Decisions on records -/

theorem plain_of_subtype {subtype : String} {type : ResourceType}
    (known : resourceTypeOfSubtype? subtype = some type) : type ∈ plainTypes := by
  unfold resourceTypeOfSubtype? at known
  split at known
  next =>
    cases known
    simp [plainTypes]
  next =>
    split at known
    next =>
      cases known
      simp [plainTypes]
    next => cases known

theorem plain_of_classifySubtype {subtype object : String} {recordId : Value}
    {type : ResourceType} (known : classifySubtype subtype object recordId = .inr type) :
    type ∈ plainTypes := by
  unfold classifySubtype at known
  split at known
  next found =>
    cases known
    exact plain_of_subtype found
  next => cases known

theorem wellTargeted_servicePrincipal {resource : ResourceId} {slug subtype principal : String}
    {grantId : String} {recordId : Value}
    (granted : servicePrincipalVerdict resource slug subtype principal grantId recordId =
      .granted grant) : WellTargeted c grant := by
  unfold servicePrincipalVerdict at granted
  split at granted
  next known =>
    cases granted
    exact .plain (plain_of_classifySubtype known) rfl
  next => cases granted

theorem wellTargeted_membership {m : Membership} {resource : ResourceId} {slug : String}
    {strict acceptGroups : Bool}
    (granted : m.verdict resource slug strict acceptGroups = .granted grant) :
    WellTargeted c grant := by
  unfold Membership.verdict at granted
  split at granted
  next =>
    cases granted
    exact .group rfl rfl
  next =>
    split at granted
    next =>
      cases granted
      exact .plain (by simp [grantTo, plainTypes]) rfl
    next =>
      split at granted
      next => exact wellTargeted_servicePrincipal granted
      next => split at granted <;> cases granted

theorem wellTargeted_principal {p : Principal} {resource : ResourceId} {slug id grantId : String}
    (granted : p.verdict resource slug id grantId = .granted grant) : WellTargeted c grant := by
  cases p with
  | user =>
    cases granted
    exact .plain (by simp [grantTo, plainTypes]) rfl
  | group =>
    cases granted
    exact .group rfl rfl
  | servicePrincipal subtype => exact wellTargeted_servicePrincipal granted
  | unknown => cases granted

theorem wellTargeted_roleAssignment {a : RoleAssignment} {resource : ResourceId}
    {subscription : String} (granted : a.grant resource subscription = .ok grant) :
    WellTargeted c grant := by
  unfold RoleAssignment.grant at granted
  cases role : roleOfDefinitionId a.roleDefinitionId with
  | error fault => simp [role, Except.map] at granted
  | ok name =>
    simp only [role, Except.map, Except.ok.injEq] at granted
    subst granted
    exact .role rfl rfl

theorem wellTargeted_assignmentTo {app : Resource} {assignment : Value} {principal : ResourceId}
    {expansion : Option Expansion}
    (targeted : ∀ slug grantId,
      WellTargeted c ⟨app.id, slug, principal, grantId, expansion⟩)
    (granted : Application.assignmentTo app assignment principal expansion = .ok grant) :
    WellTargeted c grant := by
  obtain ⟨given, -, granted⟩ := exists_of_bind_eq_ok granted
  obtain ⟨grantId, -, granted⟩ := exists_of_bind_eq_ok granted
  cases granted
  exact targeted _ _

/-! ## Phases -/

variable (c : Connector)

/-- No state is excluded here: what is granted depends on the record alone. -/
abbrev Always : Session → Prop := fun _ => True

theorem yields_memberships (type : ResourceType) (resource : ResourceId) (slug url : String)
    (strict acceptGroups : Bool) :
    Yields Always (c.directoryPhase slug url
      (Group.translateMemberships type resource slug strict acceptGroups)) (WellTargeted c) := by
  apply Connector.yields_directoryPhase readsRecords_true
  intro records
  apply Ensures.filterMap
  intro record _
  refine (keeps_reading _).bind fun membership _ => ?_
  exact keeps_settle readsRecords_true _ type fun grant granted => wellTargeted_membership granted

theorem yields_roleAssignments (resource : ResourceId) (subscription scope : String) :
    Yields Always (ResourceGroup.assignments c resource subscription scope) (WellTargeted c) := by
  refine ⟨fun _ => True, fun token => ?_, fun records _ => Ensures.mapM fun assignment _ => ?_⟩
  · exact (keeps_true _).weaken fun _ _ _ _ => trivial
  · exact Ensures.decoding fun grant granted => wellTargeted_roleAssignment granted

/-- A phase over any list in memory each of whose records comes to well targeted grants. -/
theorem yields_listed {ρ : Type} (tag : String) (size : Int) (loadAll : Act (List ρ))
    {translate : List ρ → Act (List Grant)}
    (each : ∀ records, Ensures Always (translate records) fun grants =>
      ∀ grant ∈ grants, WellTargeted c grant) :
    Yields Always (Connector.markerPhase tag size loadAll translate) (WellTargeted c) :=
  Connector.yields_markerPhase (F := fun _ => True) tag size
    ((keeps_true loadAll).weaken fun _ _ _ _ => trivial) fun records _ => each records

theorem ensures_holderGrant (role : ResourceId) (assignment : RoleAssignment) :
    Ensures Always (Role.holderGrant c role assignment) fun found =>
      ∀ grant ∈ found, WellTargeted c grant := by
  refine (keeps_true (c.principal _)).bind fun principal _ => ?_
  exact keeps_settle readsRecords_true _ .role fun grant granted => wellTargeted_principal granted

theorem ensures_classify (type : ResourceType) (subtype : Option String) (object : String)
    (recordId : Value) :
    Ensures Always (Connector.classify type subtype object recordId) fun found =>
      ∀ kind ∈ found, kind ∈ plainTypes := by
  unfold Connector.classify classify
  split
  next kind known => exact Ensures.pure (by simpa using plain_of_classifySubtype known)
  next => exact (keeps_true _).bind fun _ _ => Ensures.pure (by simp)

theorem ensures_assigned (app : Resource) (assignment : Value) :
    Ensures Always (Application.assignmentGrant c app assignment) fun found =>
      ∀ grant ∈ found, WellTargeted c grant := by
  have granted (principal : ResourceId) (expansion : Option Expansion)
      (targeted : ∀ slug grantId,
        WellTargeted c ⟨app.id, slug, principal, grantId, expansion⟩) :
      Ensures Always (do
        return some (← Run.reading (Application.assignmentTo app assignment principal expansion)))
        fun found => ∀ grant ∈ found, WellTargeted c grant := by
    refine (Ensures.reading fun _ => wellTargeted_assignmentTo targeted).bind fun grant holds => ?_
    exact Ensures.pure (by simpa using holds)
  unfold Application.assignmentGrant
  refine (keeps_reading _).bind fun id _ => ?_
  refine (keeps_reading _).bind fun type _ => ?_
  refine (keeps_reading _).bind fun recordId _ => ?_
  simp only
  split
  next => exact granted _ _ fun _ _ => .plain (by simp [plainTypes]) rfl
  next =>
    split
    next => exact granted _ _ fun _ _ => .group rfl rfl
    next =>
      split
      next =>
        refine (keeps_true (c.principal id)).bind fun resolved _ => ?_
        refine (ensures_classify .enterpriseApplication _ _ _).bind fun found plain => ?_
        cases found with
        | some kind => exact granted _ _ fun _ _ => .plain (plain kind rfl) rfl
        | none => exact Ensures.pure (by simp)
      next => exact keeps_settle readsRecords_true _ _ fun grant same => by cases same

theorem ensures_roleActions (kind : StorageKind) (resource : ResourceId)
    (subscription scope : String) (roles : List String) :
    Ensures Always (Storage.translateRoles c kind resource subscription scope roles) fun grants =>
      ∀ grant ∈ grants, WellTargeted c grant := by
  have each (role : String) : Ensures Always
      (Storage.actionGrants c kind resource subscription scope role) fun grants =>
        ∀ grant ∈ grants, WellTargeted c grant := by
    refine (keeps_true (c.index.representative? _ _ _)).bind fun found _ => ?_
    cases found with
    | none => exact Ensures.pure (by simp)
    | some assignment =>
      refine (keeps_true (Storage.roleDefinition c _)).bind fun definition _ => Ensures.pure ?_
      intro grant member
      obtain ⟨action, -, rfl⟩ := List.mem_map.mp member
      exact .role rfl rfl
  refine (Ensures.mapM fun role _ => each role).bind fun lists holds => Ensures.pure ?_
  intro grant member
  obtain ⟨grants, listed, granted⟩ := List.mem_flatten.mp member
  exact holds grants listed grant granted

/-! ## Pages -/

section Pages

variable (context : Context Session) (resource : Resource) (cursor : String)

/-- A page of phases that yield well targeted grants only. -/
theorem ensures_grantsOf (type : ResourceType) {phases : List (Phase Session Grant)}
    (each : ∀ phase ∈ phases, Yields Always phase (WellTargeted c)) :
    Ensures Always (c.step type context phases cursor) fun page =>
      ∀ grant ∈ page.1, WellTargeted c grant :=
  Enumeration.ensures_step (Enumeration.stable_true context) each cursor

theorem ensures_storagePage (kind : StorageKind) :
    Ensures Always (Storage.grants c kind context resource cursor) fun page =>
      ∀ grant ∈ page.1, WellTargeted c grant := by
  refine (keeps_true (Run.decoding _)).bind fun parts _ => ?_
  refine (keeps_true (Run.reading _)).bind fun size _ => ?_
  apply ensures_grantsOf
  simp only [List.forall_mem_cons]
  refine ⟨yields_roleAssignments c _ _ _, yields_listed c _ _ _ fun roles => ?_, by simp⟩
  exact ensures_roleActions c kind _ _ _ roles

/-- By the kind of the resource, each of which has phases of its own. -/
theorem ensures_wellTargeted (type : ResourceType) :
    Ensures Always (grants c type context resource cursor) fun page =>
      ∀ grant ∈ page.1, WellTargeted c grant := by
  cases type with
  | group =>
    apply ensures_grantsOf
    simp only [List.forall_mem_cons]
    exact ⟨yields_memberships c _ _ _ _ _ _, yields_memberships c _ _ _ _ _ _, by simp⟩
  | enterpriseApplication =>
    refine (keeps_reading _).bind fun size _ => ?_
    apply ensures_grantsOf
    simp only [List.forall_mem_cons]
    refine ⟨yields_memberships c _ _ _ _ _ _, yields_listed c _ _ _ fun assignments => ?_, by simp⟩
    exact Ensures.filterMap fun assignment _ => ensures_assigned c resource assignment
  | resourceGroup =>
    refine (keeps_true (Run.decoding _)).bind fun parts _ => ?_
    apply ensures_grantsOf
    simp only [List.forall_mem_cons]
    exact ⟨yields_roleAssignments c _ _ _, by simp⟩
  | role =>
    refine (keeps_true (Run.decoding _)).bind fun parts _ => ?_
    refine (keeps_true (Run.reading _)).bind fun size _ => ?_
    apply ensures_grantsOf
    simp only [List.forall_mem_cons]
    refine ⟨yields_listed c _ _ _ fun assignments => ?_, by simp⟩
    exact Ensures.filterMap fun assignment _ => ensures_holderGrant c resource.id assignment
  | storageAccount => exact ensures_storagePage c context resource cursor .account
  | container => exact ensures_storagePage c context resource cursor .container
  | user | managedIdentity | tenant | subscription => exact Ensures.pure (by simp)

end Pages

/-- Whatever the services answer, the grants on every page of every kind of resource are well
targeted. -/
theorem expansions_wellTargeted {type : ResourceType} {context : Context Session}
    {resource : Resource} {cursor : String} {s t : Session} {page : List Grant × String}
    (returns : grants c type context resource cursor s = (.ok page, t)) :
    ∀ grant ∈ page.1, WellTargeted c grant :=
  (ensures_wellTargeted c context resource cursor type).returned trivial returns

theorem expansions_wellTargeted_provisionedWorld :
    ∃ c page t, Connector.ofConfig provisionedWorld 5 (.mapping []) true = .ok c ∧
      grants c .storageAccount c.context account "" Session.new = (.ok page, t) ∧
      ∃ grant ∈ page.1, grant.principal = ⟨.role, "reader:sub1"⟩ ∧ grant.expandable = true ∧
        WellTargeted c grant := by
  have evaluated : ((Connector.ofConfig provisionedWorld 5 (.mapping []) true).toOption.map fun c =>
      (grants c .storageAccount c.context account "" Session.new).1.toOption.map fun page =>
        page.1.map fun grant => (grant.principal, grant.expandable)) =
      some (some [(⟨.role, "reader:sub1"⟩, true)]) := by
    decide +kernel
  obtain ⟨c, created, outcome⟩ := Option.map_eq_some_iff.mp evaluated
  obtain ⟨page, returned, shown⟩ := Option.map_eq_some_iff.mp outcome
  obtain ⟨grant, rest, items, same, -⟩ := List.map_eq_cons_iff.mp shown
  have member : grant ∈ page.1 := by simp [items]
  have returns : grants c .storageAccount c.context account "" Session.new = (.ok page, _) :=
    Prod.ext (eq_ok_of_toOption returned) rfl
  exact ⟨c, page, _, eq_ok_of_toOption created, returns, grant, member, congrArg Prod.fst same,
    congrArg Prod.snd same, expansions_wellTargeted c returns grant member⟩

end AccessSync.Catalog
