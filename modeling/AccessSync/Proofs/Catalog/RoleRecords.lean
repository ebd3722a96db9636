import AccessSync.Catalog.Storage
import AccessSync.Proofs.Cache
import AccessSync.Proofs.Enumeration.Agreement
import AccessSync.Proofs.Management.Listing
import AccessSync.Proofs.RoleIndex

/-!
# What a connector learns of roles

A connector drains the role assignments of a scope once into its index, and asks for each role
definition once.  While the service holds still, what it keeps is what the service holds, so the
answers from memory are those that the service would give.
-/

namespace AccessSync

/-! ## Where the index keeps its entries -/

namespace RoleIndex

variable (index : RoleIndex) {s t : Session}

@[simp] theorem part_get_set (entries : Cache String AssignmentsByRole) (s : Session) :
    index.part.get (index.part.set entries s) = entries := by
  unfold part
  split <;> rfl

theorem part_get_congr (shared : s.objects.roleAssignments = t.objects.roleAssignments)
    (own : s.assignments = t.assignments) : index.part.get s = index.part.get t := by
  unfold part
  split
  next => exact shared
  next => exact own

@[simp] theorem part_set_roleDefinitions (entries : Cache String AssignmentsByRole) (s : Session) :
    (index.part.set entries s).objects.roleDefinitions = s.objects.roleDefinitions := by
  unfold part
  split <;> rfl

@[simp] theorem part_set_history (entries : Cache String AssignmentsByRole) (s : Session) :
    (index.part.set entries s).history = s.history := by
  unfold part
  split <;> rfl

@[simp] theorem part_set_servicePrincipals (entries : Cache String AssignmentsByRole)
    (s : Session) :
    (index.part.set entries s).objects.servicePrincipals = s.objects.servicePrincipals := by
  unfold part
  split <;> rfl

@[simp] theorem part_set_cancelled (entries : Cache String AssignmentsByRole) (s : Session) :
    (index.part.set entries s).cancelled = s.cancelled := by
  unfold part
  split <;> rfl

end RoleIndex

/-! ## What the service holds -/

/-- The role assignments at each scope, with the pages that they come in, and the role definition at
each path. -/
structure Holdings where
  pages : String → Option String → Except ServiceError ListedPage
  tokens : String → List (Option String)
  assignments : String → List RoleAssignment
  definition : String → RoleDefinition

namespace Holdings

/-- The definition at a path does not depend on the letter case of the path. -/
def Caseless (h : Holdings) : Prop :=
  ∀ path other, Text.lower path = Text.lower other → h.definition path = h.definition other

/-- The service answers from what it holds at a scope: its pages depend on the token only, and come
to an end; the assignments name their roles in the proper form, and their definitions are found. -/
structure Served (h : Holdings) (world : World) (scope : String) : Prop where
  lists : ∀ history token,
    world.answer history (.listPage (.roleAssignments scope) token) = h.pages scope token
  held : Management.Holds (h.pages scope) none (h.tokens scope) (h.assignments scope)
  wellFormed : ∀ a ∈ h.assignments scope,
    ∃ role, roleOfDefinitionId a.roleDefinitionId = .ok role
  defined : ∀ a ∈ h.assignments scope, ∀ history, ∃ record,
    world.answer history (.operate (.roleDefinition a.roleDefinitionId)) = .ok record ∧
      RoleDefinition.ofValue record = .ok (h.definition a.roleDefinitionId)

end Holdings

def asksFor (path : String) : Call → Bool
  | .operate (.roleDefinition other) => Text.lower other == Text.lower path
  | _ => false

/-- The session keeps nothing of roles but what the service holds, and has asked for no role
definition twice. -/
structure Accurate (index : RoleIndex) (h : Holdings) (s : Session) : Prop where
  current : s.cancelled = false
  filed : ∀ scope entry, (index.part.get s).get? scope = some entry →
    entry = AssignmentsByRole.filed (h.assignments scope)
  defined : ∀ path kept, s.objects.roleDefinitions.get? (Text.lower path) = some kept →
    kept = h.definition path
  asked : ∀ path, s.history.countP (asksFor path) ≤
    if (s.objects.roleDefinitions.get? (Text.lower path)).isSome then 1 else 0

namespace Accurate

variable {index : RoleIndex} {h : Holdings} {s t : Session}

theorem of_same (accurate : Accurate index h s) (current : t.cancelled = false)
    (shared : s.objects.roleAssignments = t.objects.roleAssignments)
    (own : s.assignments = t.assignments)
    (definitions : s.objects.roleDefinitions = t.objects.roleDefinitions)
    (history : ∀ path, t.history.countP (asksFor path) = s.history.countP (asksFor path)) :
    Accurate index h t where
  current
  filed := index.part_get_congr shared own ▸ accurate.filed
  defined := definitions ▸ accurate.defined
  asked path := by
    rw [history, ← definitions]
    exact accurate.asked path

theorem new (index : RoleIndex) (h : Holdings) : Accurate index h Session.new where
  current := rfl
  filed scope entry kept := by
    have empty : index.part.get Session.new = .empty := by
      unfold RoleIndex.part
      split <;> rfl
    rw [empty] at kept
    cases kept
  defined path kept stored := by cases stored
  asked path := Nat.zero_le _

theorem recorded (record : LogRecord) (s : Session) (accurate : Accurate index h s) :
    Accurate index h (Journaled.record record s) :=
  accurate.of_same accurate.current rfl rfl rfl fun _ => rfl

/-- What is carried along may also say which role definitions are kept. -/
theorem unaffected (index : RoleIndex) (h : Holdings) (Q : Cache String RoleDefinition → Prop) :
    Unaffected fun s => Accurate index h s ∧ Q s.objects.roleDefinitions where
  listed _ _ _ holds := by
    refine ⟨holds.1.of_same holds.1.current rfl rfl rfl fun path => ?_, holds.2⟩
    simp [asksFor]
  opened _ _ holds := by
    refine ⟨holds.1.of_same holds.1.current rfl rfl rfl fun path => ?_, holds.2⟩
    simp [asksFor]
  recorded record s holds := ⟨recorded record s holds.1, holds.2⟩

theorem unaffected_alone (index : RoleIndex) (h : Holdings) : Unaffected (Accurate index h) where
  listed s listing token holds :=
    ((unaffected index h fun _ => True).listed s listing token ⟨holds, trivial⟩).1
  opened s client holds := ((unaffected index h fun _ => True).opened s client ⟨holds, trivial⟩).1
  recorded := recorded

theorem untroubled {world : World} (quiet : ∀ looks history, world.cancels looks history = false) :
    Enumeration.Untroubled (Accurate index h) (Act.context world) where
  look s holds := by
    have unsigned : (s.cancelled || world.cancels s.looks s.history) = false := by
      rw [holds.current, quiet]
      rfl
    exact ⟨unsigned, holds.of_same unsigned rfl rfl rfl fun _ => rfl⟩
  record := recorded

end Accurate

variable {h : Holdings} {world : World} {scope : String}

/-! ## The index of a scope -/

namespace RoleIndex

variable {index : RoleIndex}

theorem role_of_wellFormed {a : RoleAssignment}
    (wellFormed : ∃ role, roleOfDefinitionId a.roleDefinitionId = .ok role) :
    roleOfDefinitionId a.roleDefinitionId = .ok a.role := by
  obtain ⟨role, named⟩ := wellFormed
  rw [RoleAssignment.role, named]
  rfl

/-- Building comes to the assignments that are held at the scope, filed by their roles. -/
theorem ends_build {P : Session → Prop} (unaffected : Unaffected P)
    {pages : Option String → Except ServiceError ListedPage} {tokens : List (Option String)}
    {assignments : List RoleAssignment}
    (lists : ∀ history token,
      index.world.answer history (.listPage (.roleAssignments scope) token) = pages token)
    (held : Management.Holds pages none tokens assignments)
    (wellFormed : ∀ a ∈ assignments, ∃ role, roleOfDefinitionId a.roleDefinitionId = .ok role)
    (enough : tokens.length ≤ index.limit) (subscription : String) :
    Ends P (index.build subscription scope) (.ok (AssignmentsByRole.filed assignments)) := by
  have files (a : RoleAssignment) (member : a ∈ assignments) (entry : AssignmentsByRole) :
      Ends P (file entry a) (.ok (entry.add a.role a)) :=
    (Ends.decoding (role_of_wellFormed (wellFormed a member))).bind (Ends.pure _)
  refine Ends.bind (Ends.onFault ?_ _) ((ends_log unaffected _ _ _).bind (Ends.pure _))
  exact Management.ends_foldRoleAssignments lists unaffected rfl held files enough subscription []

theorem scopeOr_some (named : scope ≠ "") (subscription : String) :
    scopeOr subscription (some scope) = scope := by
  have given : (some scope).filter (!·.isEmpty) = some scope := by
    simpa [Option.filter_some] using named
  rw [scopeOr, given]

/-- The index of a scope is the one that the assignments at the scope are filed in. -/
theorem ends_assignmentsByRole (served : h.Served index.world scope) (named : scope ≠ "")
    (enough : (h.tokens scope).length ≤ index.limit) (subscription : String) :
    Ends (Accurate index h) (index.assignmentsByRole subscription (some scope))
      (.ok (AssignmentsByRole.filed (h.assignments scope))) := by
  simp only [assignmentsByRole, scopeOr_some named]
  refine Act.ends_cached ?produced (fun s kept holds stored => ?known) Accurate.recorded
  case known => rw [holds.filed scope kept stored]
  intro s holds _
  obtain ⟨u, built, after⟩ := (ends_build (Accurate.unaffected_alone index h) served.lists
    served.held served.wellFormed enough subscription).returns holds
  refine ⟨u, built, ?current, fun other entry kept => ?filed, ?defined, ?asked⟩
  case current => simpa using after.current
  case filed =>
    rw [part_get_set] at kept
    exact Cache.forall_insert after.filed rfl other entry kept
  case defined => simpa using after.defined
  case asked => simpa using after.asked

end RoleIndex

/-! ## Role definitions -/

namespace Catalog.Storage

variable {c : Connector}

/-- The definition of a role is found, and asked for only if it is not kept yet. -/
theorem ends_roleDefinition {index : RoleIndex} (served : h.Served c.world scope)
    (caseless : h.Caseless) {a : RoleAssignment} (member : a ∈ h.assignments scope) :
    Ends (Accurate index h) (roleDefinition c a.roleDefinitionId)
      (.ok (h.definition a.roleDefinitionId)) := by
  let path := a.roleDefinitionId
  refine Act.ends_cached ?produced (fun s kept holds stored => ?known) Accurate.recorded
  case known => rw [holds.defined path kept stored]
  intro s holds fresh
  have unaffected := Accurate.unaffected index h fun kept => kept.get? (Text.lower path) = none
  obtain ⟨t, opened, between, absent⟩ := (Management.ends_withClient unaffected c.world
    (.authorization (Management.subscriptionOf path))).returns ⟨holds, fresh⟩
  obtain ⟨record, found, read⟩ := served.defined a member t.history
  let call : Call := .operate (.roleDefinition path)
  refine ⟨{ t with history := call :: t.history }, ?_, between.current, ?filed, ?defined, ?asked⟩
  · have answered : Act.call c.world (.operate (.roleDefinition path)) t =
        (.ok (.ok record), { t with history := call :: t.history }) := by
      rw [Act.call_apply, found]
    rw [Management.roleDefinition, Run.bind_of_ok opened, Run.bind_of_ok answered]
    simp only [read]
    rfl
  case filed =>
    intro other entry kept
    refine between.filed other entry (Eq.trans ?_ kept)
    refine congrArg (Cache.get? · other) ?_
    exact index.part_get_congr rfl rfl
  -- The new entry goes with the call; the entries of other paths have nothing to do with either.
  case defined =>
    intro other kept stored
    change ((t.objects.roleDefinitions.insert (Text.lower path) (h.definition path)).get? _) = _
      at stored
    by_cases same : Text.lower other = Text.lower path
    · rw [same, Cache.get?_insert] at stored
      rw [← Option.some.inj stored]
      exact caseless path other same.symm
    · rw [Cache.get?_insert_of_ne _ _ same] at stored
      exact between.defined other kept stored
  case asked =>
    intro other
    have earlier := between.asked other
    change (call :: t.history).countP (asksFor other) ≤
      if ((t.objects.roleDefinitions.insert (Text.lower path) (h.definition path)).get?
        (Text.lower other)).isSome then 1 else 0
    by_cases same : Text.lower other = Text.lower path
    · rw [same, absent] at earlier
      have asks : asksFor other call = true := by simp [call, asksFor, same]
      rw [List.countP_cons_of_pos asks, same, Cache.get?_insert]
      simpa using earlier
    · have passes : ¬ asksFor other call = true := by
        simpa [call, asksFor] using fun e => same e.symm
      rwa [List.countP_cons_of_neg passes, Cache.get?_insert_of_ne _ _ same]

end Catalog.Storage

end AccessSync
