import AccessSync.Proofs.Catalog.RoleRecords
import AccessSync.Proofs.Enumeration.Marker

/-!
# The grants of storage resources

The two phases of a storage resource read the same role assignments on different ways: the first
page by page from the service, the second from the index.  A drain returns the holders of the
assignments and after them, role by role, the actions that the roles permit.
-/

namespace AccessSync.Catalog.Storage

open Enumeration (Chain Course Settled Turn Reads seen settled_seen)

/-! ## What is to be returned -/

/-- The identifier of a role of a subscription. -/
def roleIn (subscription role : String) : String := role ++ ":" ++ subscription

/-- A grant to a role reaches its owners and those whom it is assigned to, and nobody behind
them. -/
def reachOf (role : String) : Expansion :=
  ⟨["role:" ++ role ++ ":owners", "role:" ++ role ++ ":assigned"], [], true⟩

/-- The grant of access that an assignment gives to its role. -/
def accessGrant (resource : ResourceId) (subscription : String) (a : RoleAssignment) : Grant where
  resource
  slug := "assignment"
  principal := ⟨.role, roleIn subscription a.role⟩
  grantId := if a.id.isEmpty then a.name else a.id
  expansion := some (reachOf (roleIn subscription a.role))

/-- The grant of an action to a role. -/
def actionGrant (resource : ResourceId) (role action : String) : Grant where
  resource
  slug := action
  principal := ⟨.role, role⟩
  grantId := resource.type.name ++ ":" ++ resource.id ++ ":" ++ action ++ ":role:" ++ role
  expansion := some (reachOf role)

theorem roleHolders_eq (role : String) : roleHolders role = reachOf role := by
  simp only [roleHolders, reachOf, entitlementId, ResourceId.text, String.append_assoc]
  rfl

theorem roleActionGrant_eq (resource : ResourceId) (action role : String) :
    roleActionGrant resource action role = actionGrant resource role action := by
  have composed : composedGrantId resource action ⟨.role, role⟩ =
      resource.type.name ++ ":" ++ resource.id ++ ":" ++ action ++ ":role:" ++ role := by
    simp only [composedGrantId, ResourceId.text, String.append_assoc]
    rfl
  rw [roleActionGrant, grantTo, composed, roleHolders_eq]
  rfl

/-- A storage resource, with the subscription and the scope that its identifier stands for. -/
structure Target where
  kind : StorageKind
  resource : Resource
  subscription : String
  scope : String

namespace Target

/-- The actions that the definition of the first assignment of a role gives. -/
def permitted (target : Target) (h : Holdings) (role : String) : List String :=
  match (h.assignments target.scope).find? (·.role == role) with
  | none => []
  | some a => target.kind.actions.ofPermissions (h.definition a.roleDefinitionId).permissions

/-- The grants of the actions that a role permits. -/
def actionGrants (target : Target) (h : Holdings) (role : String) : List Grant :=
  (target.permitted h role).map
    (actionGrant target.resource.id (roleIn target.subscription role))

/-- The grants are those of the roles that assignments name, role by role and action by action in
strictly ascending order. -/
def ByRole (target : Target) (h : Holdings) (grants : List Grant) : Prop :=
  ∃ roles : List String, roles.Pairwise (· < ·) ∧
    (∀ role, role ∈ roles ↔ ∃ a ∈ h.assignments target.scope, a.role = role) ∧
    (∀ role ∈ roles, (target.permitted h role).Pairwise (· < ·)) ∧
    grants = roles.flatMap (target.actionGrants h)

/-- The grants are those of the assignments and after them those of the roles.  Every role of the
second part is one of the first, and gives each of its actions once. -/
def Delivered (target : Target) (h : Holdings) (grants : List Grant) : Prop :=
  ∃ access actions, grants = access ++ actions ∧
    access = (h.assignments target.scope).map
      (accessGrant target.resource.id target.subscription) ∧
    target.ByRole h actions ∧
    (∀ grant ∈ actions, ∃ other ∈ access, other.principal = grant.principal) ∧
    (actions.map fun grant => (grant.slug, grant.principal)).Nodup

/-- The resource is a storage account or a container with a decodable identifier, the service
answers from what it holds at its scope, and the connector may read as many pages as there are.  An
offset among the assignments has no more digits than a number may be written with. -/
structure Readable (target : Target) (h : Holdings) (c : Connector) : Prop where
  kind : target.kind = .account ∨ target.kind = .container
  located : target.kind.scope target.resource.id.id = .ok (target.subscription, target.scope)
  served : h.Served c.world target.scope
  enough : (h.tokens target.scope).length + max 1 (h.assignments target.scope).length ≤ c.limit
  short : (h.assignments target.scope).length ≤ 10 ^ maxWrittenDigits

/-! ## Roles of the second part -/

variable {target : Target} {h : Holdings}

theorem byRole_filed (target : Target) (h : Holdings) :
    target.ByRole h ((AssignmentsByRole.filed (h.assignments target.scope)).roles.flatMap
      (target.actionGrants h)) := by
  refine ⟨_, AssignmentsByRole.strict_roles_filed _, fun role => AssignmentsByRole.mem_roles_filed,
    fun role _ => ?_, rfl⟩
  unfold permitted
  split
  next => exact List.Pairwise.nil
  next => exact ActionMap.strict_ofPermissions _ _

theorem roleIn_inj {role other subscription : String} :
    roleIn subscription role = roleIn subscription other ↔ role = other := by
  rw [roleIn, roleIn, String.append_left_inj, String.append_left_inj]

theorem exists_access {grants : List Grant} (byRole : target.ByRole h grants) :
    ∀ grant ∈ grants, ∃ a ∈ h.assignments target.scope,
      (accessGrant target.resource.id target.subscription a).principal = grant.principal := by
  obtain ⟨roles, -, named, -, rfl⟩ := byRole
  intro grant member
  obtain ⟨role, listed, among⟩ := List.mem_flatMap.mp member
  obtain ⟨action, -, rfl⟩ := List.mem_map.mp among
  obtain ⟨a, assigned, rfl⟩ := (named role).mp listed
  exact ⟨a, assigned, rfl⟩

theorem nodup_actions {grants : List Grant} (byRole : target.ByRole h grants) :
    (grants.map fun grant => (grant.slug, grant.principal)).Nodup := by
  obtain ⟨roles, strict, -, ascending, rfl⟩ := byRole
  rw [List.map_flatMap]
  refine List.pairwise_flatMap.mpr ⟨fun role listed => ?_, ?_⟩
  · -- One role: its actions differ.
    rw [actionGrants, List.map_map]
    refine List.Pairwise.map _ ?_ (nodup_of_ascending (ascending role listed))
    intro action other different same
    exact different (congrArg Prod.fst same)
  · -- Two roles: the principals differ, whatever the actions.
    refine (nodup_of_ascending strict).imp fun {role other} different pair here same there => ?_
    rintro rfl
    simp only [actionGrants, List.map_map, List.mem_map, Function.comp_apply] at here there
    obtain ⟨_, -, rfl⟩ := here
    obtain ⟨_, -, equal⟩ := there
    have holder := congrArg (fun pair => pair.2.id) equal
    exact different (roleIn_inj.mp holder).symm

theorem delivered_filed (target : Target) (h : Holdings) :
    target.Delivered h ((h.assignments target.scope).map
        (accessGrant target.resource.id target.subscription) ++
      (AssignmentsByRole.filed (h.assignments target.scope)).roles.flatMap
        (target.actionGrants h)) := by
  have byRole := target.byRole_filed h
  refine ⟨_, _, rfl, rfl, byRole, fun grant member => ?_, nodup_actions byRole⟩
  obtain ⟨a, assigned, same⟩ := exists_access byRole grant member
  exact ⟨_, List.mem_map_of_mem assigned, same⟩

end Target

/-! ## The phase over the assignments -/

section Phases

variable {target : Target} {h : Holdings} {c : Connector} {P : Session → Prop}

theorem grant_wellFormed {a : RoleAssignment}
    (wellFormed : ∃ role, roleOfDefinitionId a.roleDefinitionId = .ok role)
    (resource : ResourceId) (subscription : String) :
    a.grant resource subscription = .ok (accessGrant resource subscription a) := by
  rw [RoleAssignment.grant, RoleIndex.role_of_wellFormed wellFormed]
  simp only [Except.map, roleHolders_eq]
  rfl

abbrev accessPhase (c : Connector) (target : Target) : Phase Session Grant :=
  ResourceGroup.assignments c target.resource.id target.subscription target.scope

theorem settled_accessPhase (unaffected : Unaffected P)
    (untroubled : Enumeration.Untroubled P c.context) (served : h.Served c.world target.scope)
    {s : Session} (holds : P s) (paging : Paging) :
    Settled P paging c.context (accessPhase c target) (seen (accessPhase c target) s) :=
  settled_seen untroubled holds
    (Management.decided_roleAssignments served.lists unaffected target.subscription)
    (Decided.mapM fun _ => Decided.decoding _)

theorem ends_translate_access {found : List RoleAssignment}
    (wellFormed : ∀ a ∈ found, ∃ role, roleOfDefinitionId a.roleDefinitionId = .ok role) :
    Ends P ((accessPhase c target).translate found)
      (.ok (found.map (accessGrant target.resource.id target.subscription))) :=
  Ends.mapM fun a member => Ends.decoding (grant_wellFormed (wellFormed a member) _ _)

/-- The chain of the first phase follows the pages that the service holds. -/
theorem chain_accessPhase (unaffected : Unaffected P) (served : h.Served c.world target.scope)
    {s : Session} (holds : P s) (paging : Paging) :
    Chain paging (seen (accessPhase c target) s) none (h.tokens target.scope)
      ((h.assignments target.scope).map
        (accessGrant target.resource.id target.subscription)) := by
  have long (page : Page RoleAssignment) :
      ¬ @Enumeration.Short _ _ (accessPhase c target) paging page := fun short => by
    have never : (false : Bool) = true := short.2.1
    cases never
  -- On the pages that the service holds.  A token that is asked with is read as none when it is
  -- empty, so the induction carries that this one is not.
  have follow {token : Option String} {tokens : List (Option String)}
      {found : List RoleAssignment}
      (held : Management.Holds (h.pages target.scope) token tokens found) :
      token.filter (!·.isEmpty) = token →
      (∀ a ∈ found, ∃ role, roleOfDefinitionId a.roleDefinitionId = .ok role) →
      Chain paging (seen (accessPhase c target) s) token tokens
        (found.map (accessGrant target.resource.id target.subscription)) := by
    induction held with
    | last answer read ends =>
      intro plain wellFormed
      rw [← plain] at answer
      have page := (Management.ends_roleAssignments served.lists unaffected answer read
        target.subscription s holds).1
      have items : Ends P ((accessPhase c target).translate _) _ := ends_translate_access wellFormed
      exact .last (.last (.found page) (items s holds).1 (.inl ends))
    | @next token items following found more tokens answer read nonempty rest inductionHypothesis =>
      intro plain wellFormed
      rw [← plain] at answer
      have page := (Management.ends_roleAssignments served.lists unaffected answer read
        target.subscription s holds).1
      have here : Ends P ((accessPhase c target).translate found) _ :=
        ends_translate_access fun a member => wellFormed a (List.mem_append_left _ member)
      have offered : (some following).filter (!·.isEmpty) = some following := by
        simpa [Option.filter_some] using nonempty
      rw [List.map_append]
      exact .next (.next (.found page) (here s holds).1 offered nonempty (long _))
        (inductionHypothesis offered fun a member => wellFormed a (List.mem_append_right _ member))
  exact follow served.held rfl served.wellFormed

/-! ## The phase over the roles -/

abbrev actionsPhase (c : Connector) (target : Target) (size : Int) : Phase Session Grant :=
  Connector.markerPhase actionPhase size
    (c.index.roles target.subscription (some target.scope))
    (translateRoles c target.kind target.resource.id target.subscription target.scope)

variable (served : h.Served c.world target.scope) (indexed : h.Served c.index.world target.scope)
  (named : target.scope ≠ "") (enough : (h.tokens target.scope).length ≤ c.index.limit)

include indexed named enough

theorem ends_roles :
    Ends (Accurate c.index h) (c.index.roles target.subscription (some target.scope))
      (.ok (AssignmentsByRole.filed (h.assignments target.scope)).roles) :=
  (RoleIndex.ends_assignmentsByRole indexed named enough _).bind (Ends.pure _)

include served

theorem ends_actionGrants (caseless : h.Caseless) (role : String) :
    Ends (Accurate c.index h)
      (actionGrants c target.kind target.resource.id target.subscription target.scope role)
      (.ok (target.actionGrants h role)) := by
  have assigned : Ends (Accurate c.index h)
      (c.index.assignments target.subscription role (some target.scope))
      (.ok ((AssignmentsByRole.filed (h.assignments target.scope)).ofRole role)) :=
    (RoleIndex.ends_assignmentsByRole indexed named enough _).bind (Ends.pure _)
  -- The representative of a role is the first of its assignments at the scope, as in `permitted`.
  have first : Ends (Accurate c.index h)
      (c.index.representative? target.subscription role (some target.scope))
      (.ok ((h.assignments target.scope).find? (·.role == role))) := by
    rw [← AssignmentsByRole.head?_ofRole_filed]
    exact assigned.bind (Ends.pure _)
  have granted : actionGrant target.resource.id (roleIn target.subscription role) = fun action =>
      roleActionGrant target.resource.id action (roleResourceId role target.subscription) :=
    funext fun action => (roleActionGrant_eq _ action _).symm
  refine first.bind ?_
  rw [Target.actionGrants, Target.permitted, granted]
  cases found : (h.assignments target.scope).find? (·.role == role) with
  | none => exact Ends.pure []
  | some a =>
    exact (ends_roleDefinition served caseless (List.mem_of_find?_eq_some found)).bind (Ends.pure _)

theorem ends_translateRoles (caseless : h.Caseless) (roles : List String) :
    Ends (Accurate c.index h)
      (translateRoles c target.kind target.resource.id target.subscription target.scope roles)
      (.ok (roles.flatMap (target.actionGrants h))) := by
  rw [List.flatMap_def]
  exact (Ends.mapM fun role _ => ends_actionGrants served indexed named enough caseless role).bind
    (Ends.pure _)

theorem settled_actionsPhase
    (untroubled : Enumeration.Untroubled (Accurate c.index h) c.context) (caseless : h.Caseless)
    {s : Session} (holds : Accurate c.index h s) (paging : Paging) (size : Int) :
    Settled (Accurate c.index h) paging c.context (actionsPhase c target size)
      (seen (actionsPhase c target size) s) := by
  refine settled_seen untroubled holds (fun token => ?_) fun roles =>
    ⟨_, ends_translateRoles served indexed named enough caseless roles⟩
  refine Decided.bind ⟨_, ends_roles indexed named enough⟩ fun roles => ?_
  split
  next => exact Decided.pure _
  next => exact Decided.throw _

theorem paged_actionsPhase (caseless : h.Caseless) {s : Session} (holds : Accurate c.index h s)
    (size : Int) : Connector.Paged (seen (actionsPhase c target size) s)
      (AssignmentsByRole.filed (h.assignments target.scope)).roles (target.actionGrants h) where
  page token offset starts := by
    have fetched : Ends (Accurate c.index h) ((actionsPhase c target size).fetch token)
        (.ok (Connector.pageAt (AssignmentsByRole.filed (h.assignments target.scope)).roles size
          offset)) := by
      refine (ends_roles indexed named enough).bind ?_
      simp only [starts]
      exact Ends.pure _
    exact (fetched s holds).1
  items roles _ := (ends_translateRoles served indexed named enough caseless roles s holds).1

end Phases

/-! ## The drain -/

section Drain

variable {target : Target} {h : Holdings} {c : Connector}

theorem azureId_ne_empty (path : ResourcePath) : path.azureId ≠ "" := by
  have ends : ∃ rest, path.azureId = rest ++ "/" ++ path.name := ⟨_, rfl⟩
  obtain ⟨rest, same⟩ := ends
  simp [same]

theorem scope_ne_empty {kind : StorageKind} (either : kind = .account ∨ kind = .container)
    {id subscription scope : String} (located : kind.scope id = .ok (subscription, scope)) :
    scope ≠ "" := by
  obtain rfl | rfl := either
  · cases parsed : ResourcePath.ofConnectorId id with
    | error fault => simp [StorageKind.account, parsed, Except.map] at located
    | ok path =>
      simp only [StorageKind.account, parsed, Except.map, Except.ok.injEq, Prod.mk.injEq] at located
      exact located.2 ▸ azureId_ne_empty path
  · cases parsed : splitContainerId id with
    | error fault => simp [StorageKind.container, parsed, Except.map] at located
    | ok parts =>
      simp only [StorageKind.container, parsed, Except.map, Except.ok.injEq, Prod.mk.injEq]
        at located
      intro empty
      exact azureId_ne_empty _ (String.append_eq_empty_iff.mp
        (String.append_eq_empty_iff.mp (located.2.trans empty)).1).1

/-- A drain returns the grants of the assignments and those of the roles, from every session that
keeps nothing but what the service holds. -/
theorem ends_drain_grants (readable : target.Readable h c) (caseless : h.Caseless)
    (quiet : ∀ looks history, c.world.cancels looks history = false)
    (sameWorld : c.index.world = c.world) (sameLimit : c.index.limit = c.limit) {size : Int}
    (sized : c.pageSize = .ok size) (positive : 1 ≤ size) :
    Ends (Accurate c.index h) (c.drain (grants c target.kind c.context target.resource))
      (.ok ((h.assignments target.scope).map
          (accessGrant target.resource.id target.subscription) ++
        (AssignmentsByRole.filed (h.assignments target.scope)).roles.flatMap
          (target.actionGrants h))) := by
  -- An identifier that decodes and a page size that reads leave the walk through two phases.
  have stepped : grants c target.kind c.context target.resource =
      c.step target.kind.type c.context [accessPhase c target, actionsPhase c target size] := by
    funext text
    rw [grants, readable.located, sized]
    rfl
  have served := readable.served
  have indexed : h.Served c.index.world target.scope := sameWorld ▸ served
  have named := scope_ne_empty readable.kind readable.located
  have pages := readable.enough
  have enough : (h.tokens target.scope).length ≤ c.index.limit := by omega
  have unaffected := Accurate.unaffected_alone c.index h
  have untroubled : Enumeration.Untroubled (Accurate c.index h) c.context :=
    Accurate.untroubled quiet
  obtain ⟨n, rfl⟩ : ∃ n : Nat, size = n := ⟨size.toNat, by omega⟩
  -- What the phases come to is seen from the session at hand; it is the same from all others that
  -- are accurate, so the drain may go through them one after the other.
  intro s holds
  have roles := AssignmentsByRole.length_roles_filed_le (h.assignments target.scope)
  have paged := paged_actionsPhase served indexed named enough caseless holds n
  have starts : Connector.offsetOf? none = some ((0 : Nat) : Int) := rfl
  obtain ⟨tokens, chain, few⟩ := Connector.chain_markerPhase paged (by omega)
    (Nat.le_trans roles readable.short) (c.paging target.kind.type) starts
  let access : Course Session Grant (c.paging target.kind.type) :=
    ⟨accessPhase c target, _, _, _, chain_accessPhase unaffected served holds _⟩
  let actions : Course Session Grant (c.paging target.kind.type) :=
    ⟨actionsPhase c target n, _, _, _, chain⟩
  have settled : ∀ course ∈ [access, actions],
      Settled (Accurate c.index h) (c.paging target.kind.type) c.context course.phase
        course.upstream := by
    simp only [List.forall_mem_cons]
    exact ⟨settled_accessPhase unaffected untroubled served holds _,
      settled_actionsPhase served indexed named enough untroubled caseless holds _ n, by simp⟩
  have distinct : (["role-assignment", actionPhase] : List String).Nodup := by decide
  have tagged : ∀ course ∈ [access, actions], course.phase.tag ≠ "" := by
    simp only [List.forall_mem_cons]
    exact ⟨(by decide : "role-assignment" ≠ ""), (by decide : actionPhase ≠ ""), by simp⟩
  have bound : max 1 ([access, actions].flatMap Course.tokens).length ≤ c.limit := by
    simp only [List.flatMap_cons, List.flatMap_nil, List.append_nil, List.length_append, access,
      actions]
    omega
  have drained := Enumeration.ends_drain untroubled settled distinct tagged bound
  simp only [List.flatMap_cons, List.flatMap_nil, List.append_nil] at drained
  rw [stepped]
  exact drained s holds

theorem ofConfig_ok {world : World} {limit : Nat} {config : Value} {hasCredential : Bool}
    (configured : Connector.ofConfig world limit config hasCredential = .ok c) :
    c.world = world ∧ c.limit = limit ∧ c.index = RoleIndex.onCache world limit .empty := by
  obtain ⟨_, -, configured⟩ := exists_of_bind_eq_ok configured
  obtain ⟨_, -, configured⟩ := exists_of_bind_eq_ok configured
  cases configured
  exact ⟨rfl, rfl, rfl⟩

theorem ofConfig_directory {world : World} {limit : Nat} {config : Value} {hasCredential : Bool}
    (configured : Connector.ofConfig world limit config hasCredential = .ok c) :
    Directory.Settings.ofConfig config hasCredential = .ok c.directory := by
  obtain ⟨_, settings, configured⟩ := exists_of_bind_eq_ok configured
  obtain ⟨_, -, configured⟩ := exists_of_bind_eq_ok configured
  cases configured
  exact settings

/-- A fresh connector that drains the grants of storage resources returns for each of them the
grants of its role assignments, and then those of the actions that their roles permit.  However many
resources it drains, it asks for no role definition twice. -/
theorem drain_storage_grants {world : World} {limit : Nat} {config : Value} {hasCredential : Bool}
    (configured : Connector.ofConfig world limit config hasCredential = .ok c) {size : Int}
    (sized : c.pageSize = .ok size) (positive : 1 ≤ size)
    (quiet : ∀ looks history, world.cancels looks history = false) (caseless : h.Caseless)
    {targets : List Target} (readable : ∀ target ∈ targets, target.Readable h c) :
    ∃ delivered t,
      (targets.mapM fun target => c.drain (grants c target.kind c.context target.resource))
          Session.new = (.ok (targets.map delivered), t) ∧
        (∀ target ∈ targets, target.Delivered h (delivered target)) ∧
        ∀ path, t.history.countP (asksFor path) ≤ 1 := by
  obtain ⟨rfl, rfl, index⟩ := ofConfig_ok configured
  -- One drain leaves an accurate session for the next, which counts the questions of them all.
  have each := fun target member => ends_drain_grants (readable target member) caseless quiet
    (congrArg RoleIndex.world index) (congrArg RoleIndex.limit index) sized positive
  obtain ⟨t, returns, after⟩ := (Ends.mapM each).returns (Accurate.new c.index h)
  refine ⟨_, t, returns, fun target _ => target.delivered_filed h, fun path => ?_⟩
  refine Nat.le_trans (after.asked path) ?_
  split <;> simp

end Drain

/-! ## A drain of two resources -/

/-- Two roles that are assigned at every scope, on two pages, and permit everything. -/
def sharedRoles : Holdings where
  pages _ token :=
    if token = none then .ok ⟨[assigned "1" "writer", assigned "2" "reader"], some "next", none⟩
    else .ok ⟨[assigned "3" "writer"], none, none⟩
  tokens _ := [none, some "next"]
  assignments _ := [assignment "1" "writer", assignment "2" "reader", assignment "3" "writer"]
  definition _ := ⟨"", "", "", "", "", [⟨["*"], []⟩]⟩
where
  assigned (id role : String) : Value :=
    .record [("id", .text id), ("role_definition_id", .text (roleDefinitionId "s" role))]
  assignment (id role : String) : RoleAssignment :=
    ⟨id, "", "", roleDefinitionId "s" role, "", .null⟩

/-- A service that holds the two roles. -/
def sharedRolesWorld : World where
  answer _
    | .request _ => .error ⟨.other, ""⟩
    | .clientToken .. => .error (.unexpected "")
    | .credentialToken _ => .ok ""
    | .openClient _ => ()
    | .listPage (.roleAssignments scope) token => sharedRoles.pages scope token
    | .listPage .. => .ok .none
    | .operate (.roleDefinition _) =>
      .ok (.record [("permissions", .list [.record [("actions", .list [.text "*"])]])])
    | .operate _ => .ok .null
    | .freshName => ""
    | .sleep _ => .ok ()
    | .clock => (0 : Int)
  cancels _ _ := false

theorem served_sharedRoles (scope : String) : sharedRoles.Served sharedRolesWorld scope where
  lists _ _ := rfl
  held := by
    have front : [sharedRoles.assigned "1" "writer", sharedRoles.assigned "2" "reader"].mapM
        RoleAssignment.ofValue = .ok [sharedRoles.assignment "1" "writer",
          sharedRoles.assignment "2" "reader"] := rfl
    have back : [sharedRoles.assigned "3" "writer"].mapM RoleAssignment.ofValue =
        .ok [sharedRoles.assignment "3" "writer"] := rfl
    exact .next rfl front (by decide) (.last rfl back rfl)
  wellFormed a member := by
    simp only [sharedRoles, List.mem_cons, List.not_mem_nil, or_false] at member
    obtain rfl | rfl | rfl := member
    · exact ⟨"writer", eq_ok_of_toOption (by decide +kernel)⟩
    · exact ⟨"reader", eq_ok_of_toOption (by decide +kernel)⟩
    · exact ⟨"writer", eq_ok_of_toOption (by decide +kernel)⟩
  defined _ _ _ := ⟨_, rfl, rfl⟩

def sharedTargets : List Target := [
  ⟨.account, ⟨⟨.storageAccount, "s:g:p:t:a"⟩, "a", none, .null⟩, "s",
    "/subscriptions/s/resourceGroups/g/providers/p/t/a"⟩,
  ⟨.container, ⟨⟨.container, "s:g:p:t:a:c"⟩, "c", none, .null⟩, "s",
    "/subscriptions/s/resourceGroups/g/providers/p/t/a/blobServices/default/containers/c"⟩]

theorem drain_storage_grants_sharedTargets :
    ∃ c, Connector.ofConfig sharedRolesWorld 5 (.record [("page_size", .int 1)]) true = .ok c ∧
      ∃ delivered t,
        (sharedTargets.mapM fun target => c.drain (grants c target.kind c.context target.resource))
            Session.new = (.ok (sharedTargets.map delivered), t) ∧
          (∀ target ∈ sharedTargets, target.Delivered sharedRoles (delivered target)) ∧
          ∀ path, t.history.countP (asksFor path) ≤ 1 := by
  have evaluated : (Connector.ofConfig sharedRolesWorld 5 (.record [("page_size", .int 1)]) true
      |>.toOption.map fun c => c.pageSize.toOption) = some (some 1) := by decide +kernel
  obtain ⟨c, created, sized⟩ := Option.map_eq_some_iff.mp evaluated
  have configured := eq_ok_of_toOption created
  obtain ⟨sameWorld, sameLimit, -⟩ := ofConfig_ok configured
  refine ⟨c, configured, drain_storage_grants configured (eq_ok_of_toOption sized) (by decide)
    (fun _ _ => rfl) (fun _ _ _ => rfl) ?_⟩
  have located (target : Target) (member : target ∈ sharedTargets) :
      (target.kind = .account ∨ target.kind = .container) ∧
        target.kind.scope target.resource.id.id = .ok (target.subscription, target.scope) := by
    simp only [sharedTargets, List.mem_cons, List.not_mem_nil, or_false] at member
    obtain rfl | rfl := member
    · exact ⟨.inl rfl, eq_ok_of_toOption (by decide +kernel)⟩
    · exact ⟨.inr rfl, eq_ok_of_toOption (by decide +kernel)⟩
  intro target member
  obtain ⟨kind, place⟩ := located target member
  refine ⟨kind, place, sameWorld ▸ served_sharedRoles target.scope, ?_, ?_⟩
  · rw [sameLimit]
    exact (by decide : 2 + max 1 3 ≤ 5)
  · exact Nat.le_trans (by decide : 3 ≤ 10 ^ 1) (Nat.pow_le_pow_right (by decide) (by decide))

end AccessSync.Catalog.Storage
