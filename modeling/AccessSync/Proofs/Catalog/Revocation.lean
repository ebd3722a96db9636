import AccessSync.Proofs.Catalog.IndexDrains
import AccessSync.Proofs.Catalog.Learnt

/-!
# Which assignment is deleted

The assignments of a subscription are listed together with those above and below it, and a principal
may have the same role at several of these scopes.  Taking a role from a user deletes the first
listed assignment that was made at the subscription itself, or none.
-/

namespace AccessSync.Catalog

open Management RoleIndex

/-! ## Assignments that are meant -/

/-- The assignment gives the role to the principal, and it was made at the subscription itself.  One
without a scope counts as made there. -/
structure Gives (role subscription principal : String) (a : RoleAssignment) : Prop where
  role : roleOfDefinitionId a.roleDefinitionId = .ok role
  principal : a.principalId = principal
  scope : a.scope = "" ∨ Text.lower a.scope = Text.lower (subscriptionScope subscription)

/-- The assignment is the first of the list that is meant. -/
def IsFirst (meant : RoleAssignment → Prop) (listed : List RoleAssignment) (a : RoleAssignment) :
    Prop :=
  ∃ earlier later, listed = earlier ++ a :: later ∧ meant a ∧ ∀ b ∈ earlier, ¬ meant b

section Meant

variable {role subscription principal : String} {a : RoleAssignment}

theorem role_eq_iff (nonempty : role ≠ "") :
    a.role = role ↔ roleOfDefinitionId a.roleDefinitionId = .ok role := by
  constructor
  · rintro rfl
    cases named : roleOfDefinitionId a.roleDefinitionId with
    | error fault => simp [RoleAssignment.role, named, Except.toOption] at nonempty
    | ok role => simp [RoleAssignment.role, named, Except.toOption]
  · intro named
    rw [RoleAssignment.role, named]
    rfl

theorem isFor_iff :
    isFor (subscriptionScope subscription) principal (some (subscriptionScope subscription)) a =
        true ↔
      a.principalId = principal ∧
        (a.scope = "" ∨ Text.lower a.scope = Text.lower (subscriptionScope subscription)) := by
  have named : (some (subscriptionScope subscription)).filter (!·.isEmpty) =
      some (subscriptionScope subscription) := by
    simp [Option.filter_some, subscriptionScope]
  simp only [isFor, named, Bool.and_eq_true, beq_iff_eq, String.isEmpty_iff]
  by_cases missing : a.scope = "" <;> simp [missing]

theorem gives_iff (nonempty : role ≠ "") :
    (a.role == role && isFor (subscriptionScope subscription) principal
        (some (subscriptionScope subscription)) a) = true ↔
      Gives role subscription principal a := by
  rw [Bool.and_eq_true, beq_iff_eq, role_eq_iff nonempty, isFor_iff]
  exact ⟨fun ⟨named, held, scope⟩ => ⟨named, held, scope⟩,
    fun ⟨named, held, scope⟩ => ⟨named, held, scope⟩⟩

end Meant

/-! ## Deletions -/

/-- The assignments that were asked to be deleted, the last one first, by scope and name. -/
def deletions (calls : List Call) : List (String × String) :=
  calls.filterMap fun
    | .operate (.deleteAssignment scope name) => some (scope, name)
    | _ => none

theorem deletions_deleteAssignment (scope name subscription : String) (s : Session) :
    deletions (.operate (.deleteAssignment scope name) :: opened subscription s) =
      (scope, name) :: deletions s.history := by
  rw [opened]
  split <;> rfl

theorem connected_deletions (world : World) (asked : List (String × String)) :
    Connected (Along fun s => deletions s.history = asked) world where
  page listing token := keeps_iff_agrees.mp fun _ holds => ⟨holds, fun _ _ => trivial⟩
  client client := by
    refine Agree.read fun s t related => ?_
    obtain ⟨rfl, holds⟩ := related
    split
    next =>
      refine Agree.bind (keeps_iff_agrees.mp fun _ holds => ⟨holds, fun _ _ => trivial⟩)
        fun _ => Agree.modify fun s t related => ?_
      obtain ⟨rfl, holds⟩ := related
      exact ⟨rfl, holds⟩
    next => exact Agree.pure _
  blobs accountUrl := keeps_iff_agrees.mp fun _ holds => ⟨holds, fun _ _ => trivial⟩
  silent record s t related := by
    obtain ⟨rfl, holds⟩ := related
    exact ⟨rfl, holds⟩

/-- Nothing is deleted by a question to an index. -/
theorem deletions_assignmentsByRole (index : RoleIndex) (subscription : String)
    (scope : Option String) (s : Session) :
    deletions (index.assignmentsByRole subscription scope s).2.history = deletions s.history := by
  have connected := connected_deletions index.world (deletions s.history)
  have produces : Keeps (fun t => deletions t.history = deletions s.history)
      (index.build subscription (scopeOr subscription scope)) :=
    keeps_iff_agrees.mpr (agree_build connected (connected.client _) _)
  refine (Act.keeps_cached produces (fun _ u entry _ _ after => ?_) (fun _ _ holds => holds) s
    rfl).1
  rw [part_set_history]
  exact after

/-! ## What the index comes to -/

/-- Every entry of the index holds assignments that were listed. -/
def Indexed (c : Connector) (s : Session) : Prop :=
  ∀ scope entry, (c.index.part.get s).get? scope = some entry → ∃ listed, Indexes entry listed

/-- Draining an index takes its course, whatever the service has. -/
theorem drain_ends (index : RoleIndex) (subscription scope : String) (s : Session) :
    (foldRoleAssignments index.world subscription scope file index.limit none [] s).1 =
        .error .unfinished ∨
      ∃ pages outcome after, pages ≤ index.limit ∧
        Drains index.world scope (opened subscription s) none pages outcome after :=
  exists_drains rfl index.limit []

theorem exists_indexes {index : RoleIndex} {subscription scope : String} {s t : Session}
    {entry : AssignmentsByRole} (built : index.build subscription scope s = (.ok entry, t)) :
    ∃ listed, Indexes entry listed := by
  obtain unfinished | ⟨pages, outcome, after, few, drains⟩ :=
    drain_ends index subscription scope s
  · rw [build_of_unfinished (Prod.ext unfinished rfl)] at built
    cases built
  · obtain ⟨u, folded, -, -⟩ := foldRoleAssignments_of_drains drains few rfl rfl []
    cases outcome with
    | error fault =>
      obtain ⟨raised, stops, -⟩ := build_of_fault folded
      cases stops.symm.trans built
    | ok listed =>
      obtain ⟨record, returns⟩ := build_of_ok folded
      cases returns.symm.trans built
      exact ⟨listed, indexes_filed listed⟩

/-- What a connector has in its index after any demands was listed at some time. -/
theorem indexed_of_reaches {c : Connector} {s u : Session}
    (fresh : ∀ scope, (c.index.part.get s).get? scope = none) (reached : Reaches c s u) :
    Indexed c u := by
  have learnt : Learnt c s (fun _ => True) (fun _ => False) s := by
    refine ⟨List.suffix_refl _, fun scope entry _ held => ?_, fun _ _ watched => watched.elim⟩
    rw [fresh scope] at held
    cases held
  intro scope entry held
  obtain ⟨_, _, _, -, built⟩ := (learnt_of_reaches learnt reached).drained scope entry trivial held
  exact exists_indexes built

/-- The index is asked about the subscription, and comes to the assignments in the order of the
service.  They are those that it holds, or those that the service lists now. -/
inductive Lookup (c : Connector) (subscription : String) (s : Session)
    (listed : List RoleAssignment) (entry : AssignmentsByRole) : Session → Prop where
  | held (held : (c.index.part.get s).get? (subscriptionScope subscription) = some entry)
      (indexes : Indexes entry listed) : Lookup c subscription s listed entry s
  | drained {t : Session} {pages : Nat}
      (missing : (c.index.part.get s).get? (subscriptionScope subscription) = none)
      (asked : c.index.assignmentsByRole subscription none s = (.ok entry, t))
      (drains : Drains c.index.world (subscriptionScope subscription) (opened subscription s) none
        pages (.ok listed) t.history)
      (kept : c.index.part.get t =
        (c.index.part.get s).insert (subscriptionScope subscription) entry)
      (indexes : Indexes entry listed) : Lookup c subscription s listed entry t

variable {c : Connector} {subscription : String} {s : Session}

theorem exists_lookup (indexed : Indexed c s) (subscription : String) :
    (∃ listed entry t, Lookup c subscription s listed entry t) ∨
    ∃ stop t, c.index.assignmentsByRole subscription none s = (.error stop, t) := by
  cases held : (c.index.part.get s).get? (subscriptionScope subscription) with
  | some entry =>
    obtain ⟨listed, indexes⟩ := indexed _ entry held
    exact .inl ⟨listed, entry, s, .held held indexes⟩
  | none =>
    have missing : (c.index.part.get s).get? (scopeOr subscription none) = none := held
    obtain unfinished | ⟨pages, outcome, after, few, drains⟩ :=
      drain_ends c.index subscription (subscriptionScope subscription) s
    · have built := build_of_unfinished (Prod.ext unfinished rfl)
      exact .inr ⟨.unfinished, _, Act.cached_of_stopped held built⟩
    · cases outcome with
      | error fault =>
        obtain ⟨raised, t, stops, -⟩ := exists_raised missing drains few
        exact .inr ⟨_, t, stops⟩
      | ok listed =>
        obtain ⟨entry, t, asked, rfl, kept, indexes⟩ := exists_entry missing drains few
        exact .inl ⟨listed, entry, t, .drained held asked drains kept indexes⟩

namespace Lookup

variable {listed : List RoleAssignment} {entry : AssignmentsByRole} {t : Session}

theorem indexes (lookup : Lookup c subscription s listed entry t) : Indexes entry listed := by
  cases lookup <;> assumption

theorem asked (lookup : Lookup c subscription s listed entry t) :
    c.index.assignmentsByRole subscription none s = (.ok entry, t) := by
  cases lookup with
  | held held => exact Act.cached_of_known held
  | drained missing asked => exact asked

theorem deletions (lookup : Lookup c subscription s listed entry t) :
    deletions t.history = Catalog.deletions s.history := by
  have none := deletions_assignmentsByRole c.index subscription none s
  rwa [lookup.asked] at none

end Lookup

/-! ## Taking a role -/

/-- How taking a role ends, and which session it leaves. -/
inductive Revocation (c : Connector) (record : Grant) (s : Session) :
    Except Stop Unit → Session → Prop where
  | notUser (other : record.principal.type ≠ .user) (records : List LogRecord) :
      Revocation c record s
        (.error (.fault (.failure ⟨.provisioning (.onlyUsers "role membership"), none⟩)))
        { s with journal := records }
  /-- The grant is none of a role. -/
  | malformed (user : record.principal.type = .user) {fault : RecordFault}
      (malformed : splitRoleResourceId record.resource.id = .error fault) :
      Revocation c record s (.error (.fault (.failure ⟨.record fault, none⟩))) s
  /-- The index comes to nothing. -/
  | unlisted (user : record.principal.type = .user) {role subscription : String}
      (names : splitRoleResourceId record.resource.id = .ok (role, subscription)) {stop : Stop}
      {t : Session} (asked : c.index.assignmentsByRole subscription none s = (.error stop, t)) :
      Revocation c record s (.error stop) t
  | unassigned (user : record.principal.type = .user) {role subscription : String}
      (names : splitRoleResourceId record.resource.id = .ok (role, subscription))
      {listed : List RoleAssignment} {entry : AssignmentsByRole} {t : Session}
      (lookup : Lookup c subscription s listed entry t)
      (without : ∀ a ∈ listed, ¬ Gives role subscription record.principal.id a) :
      Revocation c record s (.error (.fault (.failure ⟨.provisioning
        (.noAssignment role record.principal.id (subscriptionScope subscription)), none⟩))) t
  | deleted (user : record.principal.type = .user) {role subscription : String}
      (names : splitRoleResourceId record.resource.id = .ok (role, subscription))
      {listed : List RoleAssignment} {entry : AssignmentsByRole} {t u : Session}
      (lookup : Lookup c subscription s listed entry t) {a : RoleAssignment}
      (first : IsFirst (Gives role subscription record.principal.id) listed a) {answer : Value}
      (accepted : c.world.answer (opened subscription t)
        (.operate (.deleteAssignment (subscriptionScope subscription) a.name)) = .ok answer)
      (history : u.history = .operate (.deleteAssignment (subscriptionScope subscription) a.name) ::
        opened subscription t)
      (forgotten : c.index.part.get u =
        (c.index.part.get t).erase (subscriptionScope subscription)) :
      Revocation c record s (.ok ()) u
  /-- All that the lookup left is as it was. -/
  | refused (user : record.principal.type = .user) {role subscription : String}
      (names : splitRoleResourceId record.resource.id = .ok (role, subscription))
      {listed : List RoleAssignment} {entry : AssignmentsByRole} {t : Session}
      (lookup : Lookup c subscription s listed entry t) {a : RoleAssignment}
      (first : IsFirst (Gives role subscription record.principal.id) listed a) {e : ServiceError}
      (refused : c.world.answer (opened subscription t)
        (.operate (.deleteAssignment (subscriptionScope subscription) a.name)) = .error e)
      {stop : Stop} (stands : StandsFor
        s!"role_assignments.delete({subscriptionScope subscription}, {a.name})" e stop)
      (clients : List ManagementClient) :
      Revocation c record s (.error stop)
        { t with
          history := .operate (.deleteAssignment (subscriptionScope subscription) a.name) ::
            opened subscription t
          clients }

theorem role_ne_empty {id role subscription : String}
    (names : splitRoleResourceId id = .ok (role, subscription)) : role ≠ "" := by
  unfold splitRoleResourceId at names
  split at names
  next =>
    split at names
    next => cases names
    next given =>
      cases names
      simp only [Bool.or_eq_true, String.isEmpty_iff, not_or] at given
      exact given.1
  next => cases names

/-- A lookup picks the first assignment that is meant, if there is one. -/
theorem find?_of_lookup {role : String} {listed : List RoleAssignment}
    {entry : AssignmentsByRole} {t : Session} (lookup : Lookup c subscription s listed entry t)
    (nonempty : role ≠ "") (principal : String) :
    ∃ found, c.index.find? subscription role principal none (some (subscriptionScope subscription))
        s = (.ok found, t) ∧
      match found with
      | some a => IsFirst (Gives role subscription principal) listed a
      | none => ∀ a ∈ listed, ¬ Gives role subscription principal a := by
  let found := (entry.ofRole role).find? (isFor (subscriptionScope subscription) principal
    (some (subscriptionScope subscription)))
  refine ⟨found, Run.bind_of_ok (Run.bind_of_ok lookup.asked), ?_⟩
  -- Filing keeps the order, so the first one of the role is found by going through the whole list.
  have searched : found = listed.find? fun a =>
      a.role == role && isFor (subscriptionScope subscription) principal
        (some (subscriptionScope subscription)) a := by
    simp only [found, lookup.indexes.ofRole role, List.find?_filter, Bool.decide_and,
      Bool.decide_eq_true]
  cases outcome : found with
  | some a =>
    rw [outcome] at searched
    obtain ⟨meant, earlier, later, parted, skipped⟩ :=
      List.find?_eq_some_iff_append.mp searched.symm
    refine ⟨earlier, later, parted, (gives_iff nonempty).mp meant, fun b member gives => ?_⟩
    have passed := skipped b member
    rw [(gives_iff nonempty).mpr gives] at passed
    cases passed
  | none =>
    rw [outcome] at searched
    intro a member gives
    have skipped := List.find?_eq_none.mp searched.symm a member
    exact skipped ((gives_iff nonempty).mpr gives)

/-- Opening a client leaves all but the calls and the clients as it was. -/
theorem withClient_eq (world : World) (subscription : String) (s : Session) :
    ∃ clients, withClient world (.authorization subscription) s =
      (.ok (), { s with history := opened subscription s, clients }) := by
  have looked : (get : Act Session) s = (.ok s, s) := rfl
  rw [withClient, Run.bind_of_ok looked, opened]
  by_cases known : s.clients.contains (.authorization subscription)
  · simp only [known]
    exact ⟨s.clients, rfl⟩
  · simp only [known]
    exact ⟨_, rfl⟩

section Deletion

variable {world : World} {subscription scope name : String} {s : Session}

theorem deleteAssignment_of_accepted {answer : Value}
    (accepted : world.answer (opened subscription s) (.operate (.deleteAssignment scope name)) =
      .ok answer) :
    ∃ t, deleteAssignment world subscription scope name s = (.ok (), t) ∧
      t.history = .operate (.deleteAssignment scope name) :: opened subscription s ∧
      ∀ index : RoleIndex, index.part.get t = index.part.get s := by
  obtain ⟨clients, opens⟩ := withClient_eq world subscription s
  let after : Session := { s with
    history := .operate (.deleteAssignment scope name) :: opened subscription s, clients }
  have called : Act.call world (.operate (.deleteAssignment scope name))
      { s with history := opened subscription s, clients } = (.ok (.ok answer), after) :=
    congrArg (fun given => (Except.ok given, after)) accepted
  refine ⟨after, ?_, rfl, fun index => index.part_get_congr rfl rfl⟩
  rw [deleteAssignment, Run.bind_of_ok opens, Run.bind_of_ok called]
  rfl

theorem deleteAssignment_of_refused {e : ServiceError}
    (refused : world.answer (opened subscription s) (.operate (.deleteAssignment scope name)) =
      .error e) :
    ∃ clients stop, StandsFor s!"role_assignments.delete({scope}, {name})" e stop ∧
      deleteAssignment world subscription scope name s = (.error stop, { s with
        history := .operate (.deleteAssignment scope name) :: opened subscription s,
        clients }) := by
  obtain ⟨clients, opens⟩ := withClient_eq world subscription s
  obtain ⟨stop, stands, -⟩ :=
    refuse_stops (α := Unit) s!"role_assignments.delete({scope}, {name})" e s
  have called : Act.call world (.operate (.deleteAssignment scope name))
      { s with history := opened subscription s, clients } = (.ok (.error e), _) :=
    congrArg (fun given => (Except.ok given, _)) refused
  refine ⟨clients, stop, stands, ?_⟩
  rw [deleteAssignment, Run.bind_of_ok opens, Run.bind_of_ok called]
  exact refuse_of_standsFor stands _

end Deletion

theorem requireUser_of_other {principal : ResourceId} (other : principal.type ≠ .user)
    (type : ResourceType) (target : String) (s : Session) :
    ∃ records, Connector.requireUser type principal target s =
      (.error (.fault (.failure ⟨.provisioning (.onlyUsers target), none⟩)),
        { s with journal := records }) := by
  have rejected : (principal.type != .user) = true := by simpa using other
  rw [Connector.requireUser, if_pos rejected]
  exact ⟨_, rfl⟩

theorem requireUser_of_user {principal : ResourceId} (user : principal.type = .user)
    (type : ResourceType) (target : String) (s : Session) :
    Connector.requireUser type principal target s = (.ok (), s) := by
  rw [Connector.requireUser, user]
  rfl

/-- One who is a user loses the role by the rest of the operation. -/
theorem revoke_of_user {record : Grant} (user : record.principal.type = .user)
    {role subscription : String}
    (names : splitRoleResourceId record.resource.id = .ok (role, subscription)) (s : Session) :
    revoke c .role record s = (do
      match ← c.index.find? subscription role record.principal.id none
          (some (subscriptionScope subscription)) with
      | none => Run.fail (.provisioning
          (.noAssignment role record.principal.id (subscriptionScope subscription)))
      | some assignment =>
        deleteAssignment c.world subscription (subscriptionScope subscription) assignment.name
        c.index.invalidate subscription none
        Run.log .info ResourceType.role.component
          ("Role assignment " ++ assignment.name ++ " revoked from " ++ record.principal.text))
        s := by
  rw [revoke, Role.revoke, Run.bind_of_ok (requireUser_of_user user _ _ s), names]
  rfl

theorem invalidate_then_log (index : RoleIndex) (subscription : String) (severity : Severity)
    (component message : String) (s : Session) :
    ∃ u, (do
        index.invalidate subscription none
        Run.log severity component message : Act Unit) s = (.ok (), u) ∧
      u.history = s.history ∧
      index.part.get u = (index.part.get s).erase (subscriptionScope subscription) := by
  let erased := index.part.set ((index.part.get s).erase (subscriptionScope subscription)) s
  have same : index.part.get (Journaled.record ⟨severity, component, message⟩ erased) =
      index.part.get erased := index.part_get_congr rfl rfl
  exact ⟨_, rfl, index.part_set_history _ s, same.trans (index.part_get_set _ s)⟩

/-- Taking a role ends in one of the ways of `Revocation`. -/
theorem revocation (indexed : Indexed c s) (record : Grant) :
    Revocation c record s (revoke c .role record s).1 (revoke c .role record s).2 := by
  by_cases user : record.principal.type = .user
  case neg =>
    obtain ⟨records, stops⟩ := requireUser_of_other user .role "role membership" s
    rw [revoke, Role.revoke, Run.bind_of_error stops]
    exact .notUser user records
  case pos =>
    cases names : splitRoleResourceId record.resource.id with
    | error fault =>
      rw [revoke, Role.revoke, Run.bind_of_ok (requireUser_of_user user _ _ s), names]
      exact .malformed user names
    | ok parts =>
      obtain ⟨role, subscription⟩ := parts
      rw [revoke_of_user user names]
      -- The entry is known or drained now; a drain may come to nothing.
      obtain ⟨listed, entry, t, lookup⟩ | ⟨stop, t, asked⟩ :=
        exists_lookup indexed subscription
      · obtain ⟨found, finds, outcome⟩ := find?_of_lookup lookup (role_ne_empty names)
          record.principal.id
        rw [Run.bind_of_ok finds]
        cases found with
        | none => exact .unassigned user names lookup outcome
        | some a =>
          -- Only a deletion that is accepted drops the entry.
          cases answer : c.world.answer (opened subscription t)
              (.operate (.deleteAssignment (subscriptionScope subscription) a.name)) with
          | ok value =>
            obtain ⟨u, deletes, history, same⟩ := deleteAssignment_of_accepted answer
            dsimp only
            rw [Run.bind_of_ok deletes]
            obtain ⟨v, ends, still, forgotten⟩ := invalidate_then_log c.index subscription .info
              ResourceType.role.component _ u
            rw [ends]
            rw [same] at forgotten
            exact .deleted user names lookup outcome answer (still.trans history) forgotten
          | error e =>
            obtain ⟨clients, stop, stands, stops⟩ := deleteAssignment_of_refused answer
            dsimp only
            rw [Run.bind_of_error stops]
            exact .refused user names lookup outcome answer stands clients
      · have finds : c.index.find? subscription role record.principal.id none
            (some (subscriptionScope subscription)) s = (.error stop, t) :=
          Run.bind_of_error (Run.bind_of_error asked)
        rw [Run.bind_of_error finds]
        exact .unlisted user names asked

/-- The assignment is the first listed one that is meant by the grant. -/
def IsTarget (c : Connector) (record : Grant) (s : Session) (scope name : String) : Prop :=
  ∃ role subscription listed entry t a,
    splitRoleResourceId record.resource.id = .ok (role, subscription) ∧
    Lookup c subscription s listed entry t ∧
    IsFirst (Gives role subscription record.principal.id) listed a ∧
    scope = subscriptionScope subscription ∧ name = a.name

theorem Revocation.deletions {record : Grant} {outcome : Except Stop Unit} {u : Session}
    (revocation : Revocation c record s outcome u) :
    deletions u.history = Catalog.deletions s.history ∨
      ∃ scope name, IsTarget c record s scope name ∧
        Catalog.deletions u.history = (scope, name) :: Catalog.deletions s.history := by
  cases revocation with
  | notUser | malformed => exact .inl rfl
  | @unlisted _ _ subscription _ _ _ asked =>
    have none := deletions_assignmentsByRole c.index subscription none s
    rw [asked] at none
    exact .inl none
  | unassigned _ _ lookup => exact .inl lookup.deletions
  | deleted _ names lookup first _ history =>
    refine .inr ⟨_, _, ⟨_, _, _, _, _, _, names, lookup, first, rfl, rfl⟩, ?_⟩
    rw [history, ← lookup.deletions]
    exact deletions_deleteAssignment _ _ _ _
  | refused _ names lookup first =>
    refine .inr ⟨_, _, ⟨_, _, _, _, _, _, names, lookup, first, rfl, rfl⟩, ?_⟩
    rw [← lookup.deletions]
    exact deletions_deleteAssignment _ _ _ _

/-- Taking a role asks for one deletion at most, and only of the first listed assignment that is
meant.  It ends in one of the ways of `Revocation`, whatever the index of the subscription holds;
and what an index holds in the course of any demands was listed. -/
theorem revoke_deletes_first (c : Connector) (record : Grant) :
    (∀ s u, (∀ scope, (c.index.part.get s).get? scope = none) → Reaches c s u → Indexed c u) ∧
    ∀ s, Indexed c s →
      Revocation c record s (revoke c .role record s).1 (revoke c .role record s).2 ∧
      (deletions (revoke c .role record s).2.history = deletions s.history ∨
        ∃ scope name, IsTarget c record s scope name ∧
          deletions (revoke c .role record s).2.history =
            (scope, name) :: deletions s.history) := by
  refine ⟨fun s u fresh reached => indexed_of_reaches fresh reached, fun s indexed => ?_⟩
  have ends := revocation indexed record
  exact ⟨ends, ends.deletions⟩

/-- Somebody is a reader in several places, and others are readers too.  Only the first deletion is
accepted. -/
def scatteredWorld : World where
  answer history
    | .listPage (.roleAssignments _) _ =>
      .ok ⟨[reader "above" "u1" "/", reader "below" "u1" "/subscriptions/s/resourceGroups/g",
        reader "foreign" "u2" "/subscriptions/s", reader "exact" "u1" "/Subscriptions/S",
        reader "later" "u1" ""], none, none⟩
    | .listPage .. => .ok .none
    | .operate _ =>
      if (deletions history).isEmpty then .ok .null
      else .error ⟨.httpResponse, "locked", some 409, none⟩
    | .request _ => .error ⟨.other, ""⟩
    | .clientToken .. => .error (.unexpected "")
    | .credentialToken _ => .ok ""
    | .openClient _ => ()
    | .freshName => ""
    | .sleep _ => .ok ()
    | .clock => (0 : Int)
  cancels _ _ := false
where
  reader (name principal scope : String) : Value :=
    .record [("name", .text name), ("principal_id", .text principal), ("scope", .text scope),
      ("role_definition_id", .text (roleDefinitionId "s" "reader"))]

/-- The grant of the role to the one who is a reader in several places. -/
def scatteredReader : Grant := ⟨⟨.role, "reader:s"⟩, Slug.assigned, ⟨.user, "u1"⟩, "", none⟩

/-- The assignment at the subscription is deleted, and its index entry is gone.  When the deletion
is asked for once more and refused, the entry that was listed for it stays. -/
theorem revoke_deletes_first_scatteredWorld :
    ∃ c t u, Connector.ofConfig scatteredWorld 5 (.mapping []) true = .ok c ∧
      revoke c .role scatteredReader .new = (.ok (), t) ∧ Indexed c .new ∧ Indexed c t ∧
      deletions t.history = [("/subscriptions/s", "exact")] ∧
      (c.index.part.get t).get? "/subscriptions/s" = none ∧
      (revoke c .role scatteredReader t).2 = u ∧
      Revocation c scatteredReader t (revoke c .role scatteredReader t).1 u ∧
      deletions u.history = [("/subscriptions/s", "exact"), ("/subscriptions/s", "exact")] ∧
      ((c.index.part.get u).get? "/subscriptions/s").isSome := by
  have evaluated : ((Connector.ofConfig scatteredWorld 5 (.mapping []) true).toOption.map fun c =>
      let first := revoke c .role scatteredReader .new
      let second := revoke c .role scatteredReader first.2
      let held (s : Session) := ((c.index.part.get s).get? "/subscriptions/s").isSome
      (first.1.toOption, [deletions first.2.history, deletions second.2.history],
        [held first.2, held second.2])) =
      some (some (), [[("/subscriptions/s", "exact")],
        [("/subscriptions/s", "exact"), ("/subscriptions/s", "exact")]], [false, true]) := by
    decide +kernel
  obtain ⟨c, created, outcome⟩ := Option.map_eq_some_iff.mp evaluated
  simp only [Prod.mk.injEq, List.cons.injEq, and_true] at outcome
  obtain ⟨first, ⟨once, twice⟩, gone, stays⟩ := outcome
  have fresh (scope : String) : (c.index.part.get Session.new).get? scope = none := by
    unfold part
    split <;> rfl
  obtain ⟨indexed, revokes⟩ := revoke_deletes_first c scatteredReader
  have reached : Reaches c .new (revoke c .role scatteredReader .new).2 :=
    .demand .refl (.revoke .role scatteredReader)
  have after := indexed _ _ fresh reached
  exact ⟨c, _, _, eq_ok_of_toOption created, Prod.ext (eq_ok_of_toOption first) rfl,
    indexed _ _ fresh .refl, after, once, Option.not_isSome_iff_eq_none.mp (by simp [gone]), rfl,
    (revokes _ after).1, twice, stays⟩

end AccessSync.Catalog
