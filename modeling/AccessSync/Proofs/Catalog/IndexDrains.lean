import AccessSync.Proofs.Catalog.IndexEntries
import AccessSync.Proofs.Management.Errors

/-!
# Drains of a scope

An index asks for the role assignments at a scope page by page, and files those of a page before it
asks for the next one.  A drain that gets to the last page is kept as a whole.  One that breaks off,
at a page, at an item or at an assignment that names no role, leaves the entries as they were, so
the next question begins with the first page again.
-/

namespace AccessSync

namespace Management

/-! ## Pages -/

/-- What a page of the role assignments at a scope comes to by the answer of the service. -/
inductive PageOf (scope : String) :
    Except ServiceError ListedPage → Except Stop (Page RoleAssignment) → Prop where
  | read {items : List Value} {offered : Option String} {found : List RoleAssignment}
      (readable : items.mapM RoleAssignment.ofValue = .ok found) :
      PageOf scope (.ok ⟨items, offered, none⟩) (.ok ⟨found, offered.filter (!·.isEmpty)⟩)
  | unreadable {items : List Value} {offered : Option String} {failure : Option ServiceError}
      {misuse : Misuse} (unreadable : items.mapM RoleAssignment.ofValue = .error misuse) :
      PageOf scope (.ok ⟨items, offered, failure⟩) (.error (.fault (.defect (.misuse misuse))))
  /-- An error arises after some items. -/
  | brokenOff {items : List Value} {offered : Option String} {found : List RoleAssignment}
      {e : ServiceError} {stop : Stop}
      (readable : items.mapM RoleAssignment.ofValue = .ok found)
      (stands : StandsFor s!"role_assignments.list_for_scope({scope})" e stop) :
      PageOf scope (.ok ⟨items, offered, some e⟩) (.error stop)
  | refused {e : ServiceError} {stop : Stop}
      (stands : StandsFor s!"role_assignments.list_for_scope({scope})" e stop) :
      PageOf scope (.error e) (.error stop)

/-- The calls before a page is asked for: a client is opened unless there is one. -/
def opened (subscription : String) (s : Session) : List Call :=
  if s.clients.contains (.authorization subscription) then s.history
  else .openClient (.authorization subscription) :: s.history

/-- The role assignments at a scope are asked for from a token on, after the calls made before.  It
takes so many pages, and comes to the assignments in the order of the service or to a fault. -/
inductive Drains (world : World) (scope : String) :
    List Call → Option String → Nat → Except Fault (List RoleAssignment) → List Call → Prop where
  | last {before : List Call} {token : Option String} {found : List RoleAssignment}
      (page : PageOf scope (world.answer before (.listPage (.roleAssignments scope) token))
        (.ok ⟨found, none⟩))
      (formed : ∀ a ∈ found, roleOfDefinitionId a.roleDefinitionId = .ok a.role) :
      Drains world scope before token 1 (.ok found)
        (.listPage (.roleAssignments scope) token :: before)
  | next {before after : List Call} {token : Option String} {found : List RoleAssignment}
      {following : String} {pages : Nat} {outcome : Except Fault (List RoleAssignment)}
      (page : PageOf scope (world.answer before (.listPage (.roleAssignments scope) token))
        (.ok ⟨found, some following⟩))
      (formed : ∀ a ∈ found, roleOfDefinitionId a.roleDefinitionId = .ok a.role)
      (rest : Drains world scope (.listPage (.roleAssignments scope) token :: before)
        (some following) pages outcome after) :
      Drains world scope before token (pages + 1) (outcome.map (found ++ ·)) after
  | stopped {before : List Call} {token : Option String} {fault : Fault}
      (page : PageOf scope (world.answer before (.listPage (.roleAssignments scope) token))
        (.error (.fault fault))) :
      Drains world scope before token 1 (.error fault)
        (.listPage (.roleAssignments scope) token :: before)
  /-- The first assignment that names no role ends the drain. -/
  | malformed {before : List Call} {token offered : Option String}
      {earlier later : List RoleAssignment} {bad : RoleAssignment} {fault : RecordFault}
      (page : PageOf scope (world.answer before (.listPage (.roleAssignments scope) token))
        (.ok ⟨earlier ++ bad :: later, offered⟩))
      (formed : ∀ a ∈ earlier, roleOfDefinitionId a.roleDefinitionId = .ok a.role)
      (malformed : roleOfDefinitionId bad.roleDefinitionId = .error fault) :
      Drains world scope before token 1 (.error (.failure { cause := .record fault }))
        (.listPage (.roleAssignments scope) token :: before)

variable {world : World} {subscription scope : String} {token : Option String} {s : Session}

/-- The first page is asked for in any case. -/
theorem Drains.one_le {before after : List Call} {pages : Nat}
    {outcome : Except Fault (List RoleAssignment)}
    (drains : Drains world scope before token pages outcome after) : 1 ≤ pages := by
  cases drains <;> exact Nat.le_add_left 1 _

theorem exists_pageOf (scope : String) (answer : Except ServiceError ListedPage) :
    ∃ outcome, PageOf scope answer outcome := by
  have standing (e : ServiceError) :
      ∃ stop, StandsFor s!"role_assignments.list_for_scope({scope})" e stop := by
    obtain ⟨stop, stands, -⟩ := refuse_stops (α := Unit)
      s!"role_assignments.list_for_scope({scope})" e .new
    exact ⟨stop, stands⟩
  match answer with
  | .error e =>
    obtain ⟨stop, stands⟩ := standing e
    exact ⟨_, .refused stands⟩
  | .ok ⟨items, offered, failure⟩ =>
    cases readable : items.mapM RoleAssignment.ofValue with
    | error misuse => exact ⟨_, .unreadable readable⟩
    | ok found =>
      cases failure with
      | none => exact ⟨_, .read readable⟩
      | some e =>
        obtain ⟨stop, stands⟩ := standing e
        exact ⟨_, .brokenOff readable stands⟩

/-- Where there is no page, there is a fault. -/
theorem PageOf.exists_fault {answer : Except ServiceError ListedPage} {stop : Stop}
    (of : PageOf scope answer (.error stop)) : ∃ fault, stop = .fault fault := by
  cases of with
  | unreadable unreadable => exact ⟨_, rfl⟩
  | brokenOff readable stands | refused stands => cases stands <;> exact ⟨_, rfl⟩

/-- A page offers no empty token. -/
theorem PageOf.plain_next {answer : Except ServiceError ListedPage} {page : Page RoleAssignment}
    (of : PageOf scope answer (.ok page)) :
    page.next.filter (!·.isEmpty) = page.next := by
  cases of with
  | @read items offered found readable =>
    cases offered with
    | none => rfl
    | some next => by_cases empty : next.isEmpty <;> simp [Option.filter, empty]

theorem exists_withClient (world : World) (subscription : String) (s : Session) :
    ∃ t, withClient world (.authorization subscription) s = (.ok (), t) ∧
      t.history = opened subscription s ∧ opened subscription t = t.history := by
  have looked : (get : Act Session) s = (.ok s, s) := rfl
  rw [withClient, Run.bind_of_ok looked]
  unfold opened
  by_cases known : s.clients.contains (.authorization subscription)
  · simp only [known]
    exact ⟨s, rfl, rfl, if_pos known⟩
  · simp only [known]
    exact ⟨_, rfl, rfl, if_pos (by simp)⟩

/-- A page is asked for once, and then the client is open. -/
theorem roleAssignments_of_pageOf (plain : token.filter (!·.isEmpty) = token)
    {outcome : Except Stop (Page RoleAssignment)}
    (page : PageOf scope (world.answer (opened subscription s)
      (.listPage (.roleAssignments scope) token)) outcome) :
    ∃ t, roleAssignments world subscription scope token s = (outcome, t) ∧
      t.history = .listPage (.roleAssignments scope) token :: opened subscription s ∧
      opened subscription t = t.history := by
  obtain ⟨u, opens, history, isOpen⟩ := exists_withClient world subscription s
  let calls := .listPage (.roleAssignments scope) token :: opened subscription s
  have called : Act.call world (.listPage (.roleAssignments scope) token) u =
      (.ok (world.answer (opened subscription s) (.listPage (.roleAssignments scope) token)),
        { u with history := calls }) := by
    simp only [calls]
    rw [← history]
    rfl
  -- The call leaves the clients as they are, so the client that was opened still is.
  have still : opened subscription { u with history := calls } = calls := by
    unfold opened at isOpen ⊢
    split at isOpen
    next known => exact if_pos known
    next => exact absurd isOpen (List.cons_ne_self _ _)
  refine ⟨_, ?_, rfl, still⟩
  rw [roleAssignments, Run.bind_of_ok opens, listPage, plain, Run.bind_of_ok called]
  generalize world.answer (opened subscription s) (.listPage (.roleAssignments scope) token) =
    answer at page
  cases page with
  | read readable | unreadable readable =>
    simp only [readable]
    rfl
  | brokenOff readable stands =>
    simp only [readable]
    exact refuse_of_standsFor stands _
  | refused stands => exact refuse_of_standsFor stands _

end Management

open Management

/-! ## Filing -/

namespace RoleIndex

variable {index : RoleIndex} {world : World} {subscription scope : String} {token : Option String}
  {s t : Session} {found : List RoleAssignment}

/-- The entry with further assignments, each under its role. -/
abbrev fileAll (entry : AssignmentsByRole) (assignments : List RoleAssignment) :
    AssignmentsByRole :=
  assignments.foldl (fun entry a => entry.add a.role a) entry

/-- Assignments that name their roles are all filed. -/
theorem foldlM_file (formed : ∀ a ∈ found, roleOfDefinitionId a.roleDefinitionId = .ok a.role)
    (entry : AssignmentsByRole) (s : Session) :
    found.foldlM file entry s = (.ok (fileAll entry found), s) := by
  have files (a : RoleAssignment) (member : a ∈ found) (entry : AssignmentsByRole) :
      Ends (· = s) (file entry a) (.ok (entry.add a.role a)) :=
    (Ends.decoding (formed a member)).bind (Ends.pure _)
  obtain ⟨outcome, same⟩ := Ends.foldlM files entry s rfl
  exact Prod.ext outcome same

/-- The first assignment that names no role ends the filing. -/
theorem foldlM_file_malformed {earlier later : List RoleAssignment} {bad : RoleAssignment}
    {fault : RecordFault}
    (formed : ∀ a ∈ earlier, roleOfDefinitionId a.roleDefinitionId = .ok a.role)
    (malformed : roleOfDefinitionId bad.roleDefinitionId = .error fault)
    (entry : AssignmentsByRole) (s : Session) :
    (earlier ++ bad :: later).foldlM file entry s =
      (.error (.fault (.failure { cause := .record fault })), s) := by
  rw [List.foldlM_append, Run.bind_of_ok (foldlM_file formed entry s), List.foldlM_cons]
  refine Run.bind_of_error ?_
  rw [file, malformed]
  rfl

/-! ## Draining -/

/-- A fold over the pages of a drain files what the drain comes to. -/
theorem foldRoleAssignments_of_drains {before after : List Call} {pages : Nat}
    {outcome : Except Fault (List RoleAssignment)}
    (drains : Drains world scope before token pages outcome after) {limit : Nat}
    (enough : pages ≤ limit) (here : opened subscription s = before)
    (plain : token.filter (!·.isEmpty) = token) (entry : AssignmentsByRole) :
    ∃ t, foldRoleAssignments world subscription scope file limit token entry s =
        ((outcome.map (fileAll entry)).mapError .fault, t) ∧
      t.history = after ∧ opened subscription t = t.history := by
  -- On the pages; after the first one the client is open, so each page is one call.
  induction drains generalizing limit s entry with
  | last page formed =>
    obtain ⟨limit, rfl⟩ := Nat.exists_eq_add_of_le' enough
    subst here
    obtain ⟨t, lists, history, isOpen⟩ := roleAssignments_of_pageOf plain page
    refine ⟨t, ?_, history, isOpen⟩
    rw [foldRoleAssignments, Run.bind_of_ok lists, Run.bind_of_ok (foldlM_file formed entry t)]
    rfl
  | @next before after token found following pages outcome page formed rest inductionHypothesis =>
    obtain ⟨limit, rfl⟩ := Nat.exists_eq_add_of_le' (Nat.le_trans (Nat.le_add_left 1 _) enough)
    subst here
    obtain ⟨t, lists, history, isOpen⟩ := roleAssignments_of_pageOf plain page
    obtain ⟨u, drained, after, stillOpen⟩ := inductionHypothesis (Nat.le_of_succ_le_succ enough)
      (isOpen.trans history) page.plain_next _
    refine ⟨u, ?_, after, stillOpen⟩
    rw [foldRoleAssignments, Run.bind_of_ok lists, Run.bind_of_ok (foldlM_file formed entry t)]
    have whole : (outcome.map (found ++ ·)).map (fileAll entry) =
        outcome.map (fileAll (fileAll entry found)) := by
      cases outcome with
      | error fault => rfl
      | ok more => exact congrArg Except.ok List.foldl_append
    rw [whole]
    exact drained
  | stopped page =>
    obtain ⟨limit, rfl⟩ := Nat.exists_eq_add_of_le' enough
    subst here
    obtain ⟨t, lists, history, isOpen⟩ := roleAssignments_of_pageOf plain page
    refine ⟨t, ?_, history, isOpen⟩
    rw [foldRoleAssignments, Run.bind_of_error lists]
    rfl
  | malformed page formed malformed =>
    obtain ⟨limit, rfl⟩ := Nat.exists_eq_add_of_le' enough
    subst here
    obtain ⟨t, lists, history, isOpen⟩ := roleAssignments_of_pageOf plain page
    refine ⟨t, ?_, history, isOpen⟩
    rw [foldRoleAssignments, Run.bind_of_ok lists,
      Run.bind_of_error (foldlM_file_malformed formed malformed entry t)]
    rfl

/-- All assignments name their roles, or there is a first one that does not. -/
theorem formed_or_malformed (found : List RoleAssignment) :
    (∀ a ∈ found, roleOfDefinitionId a.roleDefinitionId = .ok a.role) ∨
      ∃ earlier bad later fault, found = earlier ++ bad :: later ∧
        (∀ a ∈ earlier, roleOfDefinitionId a.roleDefinitionId = .ok a.role) ∧
        roleOfDefinitionId bad.roleDefinitionId = .error fault := by
  induction found with
  | nil => exact .inl nofun
  | cons a found inductionHypothesis =>
    cases named : roleOfDefinitionId a.roleDefinitionId with
    | error fault => exact .inr ⟨[], a, found, fault, rfl, nofun, named⟩
    | ok role =>
      have here := role_of_wellFormed ⟨role, named⟩
      obtain formed | ⟨earlier, bad, later, fault, rfl, formed, malformed⟩ := inductionHypothesis
      · exact .inl (List.forall_mem_cons.mpr ⟨here, formed⟩)
      · exact .inr ⟨a :: earlier, bad, later, fault, rfl, List.forall_mem_cons.mpr ⟨here, formed⟩,
          malformed⟩

/-- Unless the pages are more than the limit, a fold over them is a drain. -/
theorem exists_drains (plain : token.filter (!·.isEmpty) = token) (limit : Nat)
    (entry : AssignmentsByRole) :
    (foldRoleAssignments world subscription scope file limit token entry s).1 =
        .error .unfinished ∨
      ∃ pages outcome after, pages ≤ limit ∧
        Drains world scope (opened subscription s) token pages outcome after := by
  -- On the limit, as the pages may have no end; only a page that is followed by another one, with
  -- all its assignments filed, leaves something to the rest.
  induction limit generalizing token s entry with
  | zero => exact .inl rfl
  | succ limit inductionHypothesis =>
    obtain ⟨outcome, page⟩ := exists_pageOf scope
      (world.answer (opened subscription s) (.listPage (.roleAssignments scope) token))
    match outcome, page with
    | .error stop, page =>
      obtain ⟨fault, rfl⟩ := page.exists_fault
      exact .inr ⟨1, _, _, Nat.le_add_left 1 limit, .stopped page⟩
    | .ok ⟨found, following⟩, page =>
      obtain formed | ⟨earlier, bad, later, fault, rfl, formed, malformed⟩ :=
        formed_or_malformed found
      · cases following with
        | none => exact .inr ⟨1, _, _, Nat.le_add_left 1 limit, .last page formed⟩
        | some following =>
          obtain ⟨t, lists, history, isOpen⟩ := roleAssignments_of_pageOf plain page
          rw [foldRoleAssignments, Run.bind_of_ok lists,
            Run.bind_of_ok (foldlM_file formed entry t)]
          refine (inductionHypothesis page.plain_next _).imp_right ?_
          rintro ⟨pages, outcome, after, few, rest⟩
          rw [isOpen, history] at rest
          exact ⟨pages + 1, _, after, Nat.succ_le_succ few, .next page formed rest⟩
      · exact .inr ⟨1, _, _, Nat.le_add_left 1 limit, .malformed page formed malformed⟩

/-- A fold over the pages begins with the page at the token. -/
theorem begins_foldRoleAssignments (plain : token.filter (!·.isEmpty) = token) (limit : Nat)
    (entry : AssignmentsByRole) :
    (.listPage (.roleAssignments scope) token :: opened subscription s) <:+
      (foldRoleAssignments world subscription scope file (limit + 1) token entry s).2.history := by
  obtain ⟨outcome, page⟩ := exists_pageOf scope
    (world.answer (opened subscription s) (.listPage (.roleAssignments scope) token))
  obtain ⟨t, lists, history, -⟩ := roleAssignments_of_pageOf plain page
  rw [← history]
  change Since t _
  cases outcome with
  | error stop =>
    rw [foldRoleAssignments, Run.bind_of_error lists]
    exact List.suffix_refl _
  | ok found =>
    rw [foldRoleAssignments, Run.bind_of_ok lists]
    have memory : OfMemory (Since t) := fun _ _ holds since _ _ _ => holds.trans since
    have managed := memory.lasting.managed world
    have filing : Keeps (Since t) (found.records.foldlM file entry) :=
      keeps_iff_agrees.mpr (Agree.foldlM agrees_file _ _)
    refine Ensures.kept (P := Since t) (Q := fun _ => True) (filing.bind fun entry _ => ?_)
      (List.suffix_refl _) rfl
    split
    next => exact Ensures.pure trivial
    next =>
      exact keeps_iff_agrees.mpr
        (agree_foldRoleAssignments managed (managed.client _) scope agrees_file _ _ _)

/-! ## Building -/

/-- What is raised when the drain of a scope ends with a fault: rate limits as they are, anything
else as a failure of building the index. -/
inductive Surfaces (scope : String) : Fault → Fault → Prop where
  | rateLimited {failure : Failure} (waits : failure.isRateLimited = true) :
      Surfaces scope (.failure failure) (.failure failure)
  | failure {failure : Failure} (other : failure.isRateLimited = false) :
      Surfaces scope (.failure failure) (.failure { cause := .cacheBuild scope failure.message })
  | defect (defect : Defect) :
      Surfaces scope (.defect defect) (.failure { cause := .cacheBuild scope defect.message })

theorem build_of_ok {entry : AssignmentsByRole}
    (drained : foldRoleAssignments index.world subscription scope file index.limit none [] s =
      (.ok entry, t)) :
    ∃ record, index.build subscription scope s = (.ok entry, Journaled.record record t) :=
  ⟨_, (Run.bind_of_ok (Run.tryCatch_of_ok drained)).trans rfl⟩

theorem build_of_unfinished
    (drained : foldRoleAssignments index.world subscription scope file index.limit none [] s =
      (.error .unfinished, t)) :
    index.build subscription scope s = (.error .unfinished, t) :=
  Run.bind_of_error (Run.tryCatch_of_error drained)

theorem build_of_fault {fault : Fault}
    (drained : foldRoleAssignments index.world subscription scope file index.limit none [] s =
      (.error (.fault fault), t)) :
    ∃ raised, index.build subscription scope s = (.error (.fault raised), t) ∧
      Surfaces scope fault raised := by
  cases fault with
  | failure failure =>
    cases waits : failure.isRateLimited with
    | true =>
      refine ⟨_, Run.bind_of_error ((Run.tryCatch_of_error drained).trans ?_), .rateLimited waits⟩
      simp only [waits]
      rfl
    | false =>
      refine ⟨_, Run.bind_of_error ((Run.tryCatch_of_error drained).trans ?_), .failure waits⟩
      simp only [waits]
      rfl
  | defect defect => exact ⟨_, Run.bind_of_error (Run.tryCatch_of_error drained), .defect defect⟩

/-- What is kept of assignments that were drained. -/
structure Indexes (entry : AssignmentsByRole) (drained : List RoleAssignment) : Prop where
  /-- A role has its assignments in the order of the service. -/
  ofRole : ∀ role, entry.ofRole role = drained.filter (·.role == role)
  /-- None is lost or comes twice. -/
  rearranged : (entry.flatMap Prod.snd).Perm drained
  ascending : entry.roles.Pairwise (· < ·)
  occurring : ∀ role, role ∈ entry.roles ↔ ∃ a ∈ drained, a.role = role

theorem indexes_filed (drained : List RoleAssignment) :
    Indexes (AssignmentsByRole.filed drained) drained where
  ofRole := AssignmentsByRole.ofRole_filed drained
  rearranged := AssignmentsByRole.perm_flatMap_filed drained
  ascending := AssignmentsByRole.strict_roles_filed drained
  occurring _ := AssignmentsByRole.mem_roles_filed

/-! ## Questions -/

section

variable {asked : Option String}

theorem roles_of_returns {entry : AssignmentsByRole}
    (returns : index.assignmentsByRole subscription asked s = (.ok entry, t)) :
    index.roles subscription asked s = (.ok entry.roles, t) :=
  Run.bind_of_ok returns

/-- The first assignment of a role stands for it. -/
theorem representative?_of_returns {entry : AssignmentsByRole}
    (returns : index.assignmentsByRole subscription asked s = (.ok entry, t))
    (indexes : Indexes entry found) (role : String) :
    index.representative? subscription role asked s = (.ok (found.find? (·.role == role)), t) := by
  rw [← List.head?_filter, ← indexes.ofRole role]
  exact Run.bind_of_ok (Run.bind_of_ok returns)

/-- What was built is kept and handed out. -/
theorem exists_of_built {entry : AssignmentsByRole}
    (missing : (index.part.get s).get? (scopeOr subscription asked) = none)
    (built : index.build subscription (scopeOr subscription asked) s = (.ok entry, t)) :
    ∃ u, index.assignmentsByRole subscription asked s = (.ok entry, u) ∧ u.history = t.history ∧
      index.part.get u = (index.part.get t).insert (scopeOr subscription asked) entry := by
  obtain ⟨record, handed⟩ := Act.cached_of_produced index.cacheName "role-assignments" missing built
  have silent (u : Session) : index.part.get (Journaled.record record u) = index.part.get u :=
    index.part_get_congr rfl rfl
  exact ⟨_, handed, index.part_set_history _ t, (silent _).trans (index.part_get_set _ t)⟩

/-- A question about a scope that is not held begins with the first page. -/
theorem begins_assignmentsByRole
    (missing : (index.part.get s).get? (scopeOr subscription asked) = none)
    (some : 1 ≤ index.limit) :
    (.listPage (.roleAssignments (scopeOr subscription asked)) none :: opened subscription s) <:+
      (index.assignmentsByRole subscription asked s).2.history := by
  obtain ⟨limit, same⟩ := Nat.exists_eq_add_of_le' some
  have begins : (.listPage (.roleAssignments (scopeOr subscription asked)) none ::
      opened subscription s) <:+ (foldRoleAssignments index.world subscription
        (scopeOr subscription asked) file index.limit none [] s).2.history := by
    rw [same]
    exact begins_foldRoleAssignments rfl limit []
  -- Neither the handler nor what is kept in the end is a call.
  match drained : foldRoleAssignments index.world subscription (scopeOr subscription asked) file
      index.limit none [] s with
  | (.ok entry, t) =>
    rw [drained] at begins
    obtain ⟨record, built⟩ := build_of_ok drained
    obtain ⟨u, handed, history, -⟩ := exists_of_built missing built
    rw [handed, history]
    exact begins
  | (.error .unfinished, t) =>
    rw [drained] at begins
    rw [assignmentsByRole, Act.cached_of_stopped missing (build_of_unfinished drained)]
    exact begins
  | (.error (.fault fault), t) =>
    rw [drained] at begins
    obtain ⟨raised, built, -⟩ := build_of_fault drained
    rw [assignmentsByRole, Act.cached_of_stopped missing built]
    exact begins

variable {pages : Nat} {after : List Call}

/-- Assignments that were drained are kept by role. -/
theorem exists_entry (missing : (index.part.get s).get? (scopeOr subscription asked) = none)
    (drains : Drains index.world (scopeOr subscription asked) (opened subscription s) none pages
      (.ok found) after) (enough : pages ≤ index.limit) :
    ∃ entry t, index.assignmentsByRole subscription asked s = (.ok entry, t) ∧ t.history = after ∧
      index.part.get t = (index.part.get s).insert (scopeOr subscription asked) entry ∧
      Indexes entry found := by
  obtain ⟨u, drained, history, -⟩ := foldRoleAssignments_of_drains drains enough rfl rfl []
  have filed : foldRoleAssignments index.world subscription (scopeOr subscription asked) file
      index.limit none [] s = (.ok (AssignmentsByRole.filed found), u) := drained
  obtain ⟨record, built⟩ := build_of_ok filed
  obtain ⟨-, shared, own⟩ := index.build_frame subscription (scopeOr subscription asked) s
  have same := index.part_get_congr shared own
  rw [built] at same
  obtain ⟨t, handed, calls, kept⟩ := exists_of_built missing built
  exact ⟨_, t, handed, calls.trans history, kept.trans (same ▸ rfl), indexes_filed found⟩

/-- A drain that ends with a fault leaves the entries alone. -/
theorem exists_raised (missing : (index.part.get s).get? (scopeOr subscription asked) = none)
    {fault : Fault} (drains : Drains index.world (scopeOr subscription asked)
      (opened subscription s) none pages (.error fault) after) (enough : pages ≤ index.limit) :
    ∃ raised t, index.assignmentsByRole subscription asked s = (.error (.fault raised), t) ∧
      t.history = after ∧ Surfaces (scopeOr subscription asked) fault raised ∧
      index.part.get t = index.part.get s ∧ opened subscription t = t.history := by
  obtain ⟨t, drained, history, isOpen⟩ := foldRoleAssignments_of_drains drains enough rfl rfl []
  have stopped : foldRoleAssignments index.world subscription (scopeOr subscription asked) file
      index.limit none [] s = (.error (.fault fault), t) := drained
  obtain ⟨raised, built, surfaces⟩ := build_of_fault stopped
  obtain ⟨-, shared, own⟩ := index.build_frame subscription (scopeOr subscription asked) s
  have same := index.part_get_congr shared own
  rw [built] at same
  exact ⟨raised, t, Act.cached_of_stopped missing built, history, surfaces, same.symm, isOpen⟩

/-- A scope that is not held is drained from the first page on, unless its pages are more than the
limit.  If the drain comes to assignments, the index holds them from then on, by role, in the order
of the service, and hands out the roles in ascending order, and the first assignment of each.  If it
ends with a fault, that surfaces, the entries are as they were, and the next question begins with
the first page again. -/
theorem assignmentsByRole_drains
    (missing : (index.part.get s).get? (scopeOr subscription asked) = none) :
    ((index.assignmentsByRole subscription asked s).1 = .error .unfinished ∨
      ∃ pages outcome after, pages ≤ index.limit ∧ Drains index.world (scopeOr subscription asked)
        (opened subscription s) none pages outcome after) ∧
    ∀ pages outcome after, pages ≤ index.limit → Drains index.world (scopeOr subscription asked)
        (opened subscription s) none pages outcome after →
      (∀ drained, outcome = .ok drained → ∃ entry t,
        index.assignmentsByRole subscription asked s = (.ok entry, t) ∧ t.history = after ∧
        index.part.get t = (index.part.get s).insert (scopeOr subscription asked) entry ∧
        Indexes entry drained ∧
        ∀ u, u = s ∨ u = t → index.roles subscription asked u = (.ok entry.roles, t) ∧
          ∀ role, index.representative? subscription role asked u =
            (.ok (drained.find? (·.role == role)), t)) ∧
      (∀ fault, outcome = .error fault → ∃ raised t,
        index.assignmentsByRole subscription asked s = (.error (.fault raised), t) ∧
        t.history = after ∧ Surfaces (scopeOr subscription asked) fault raised ∧
        index.part.get t = index.part.get s ∧
        (.listPage (.roleAssignments (scopeOr subscription asked)) none :: t.history) <:+
          (index.assignmentsByRole subscription asked t).2.history) := by
  refine ⟨?_, fun pages outcome after enough drains => ⟨?_, ?_⟩⟩
  · refine (exists_drains rfl index.limit []).imp_left fun unfinished => ?_
    have stopped := build_of_unfinished (Prod.ext unfinished rfl)
    rw [assignmentsByRole, Act.cached_of_stopped missing stopped]
  · rintro drained rfl
    obtain ⟨entry, t, handed, history, kept, indexes⟩ := exists_entry missing drains enough
    refine ⟨entry, t, handed, history, kept, indexes, ?_⟩
    have held : (index.part.get t).get? (scopeOr subscription asked) = some entry := by
      rw [kept, Cache.get?_insert]
    have known : index.assignmentsByRole subscription asked t = (.ok entry, t) :=
      Act.cached_of_known held
    -- The first question drains, and later ones find the entry.
    rintro u (rfl | rfl)
    · exact ⟨roles_of_returns handed, representative?_of_returns handed indexes⟩
    · exact ⟨roles_of_returns known, representative?_of_returns known indexes⟩
  · rintro fault rfl
    obtain ⟨raised, t, stops, history, surfaces, same, isOpen⟩ :=
      exists_raised missing drains enough
    refine ⟨raised, t, stops, history, surfaces, same, ?_⟩
    -- Nothing was kept, so the next question begins with the first page again.
    have still : (index.part.get t).get? (scopeOr subscription asked) = none := by
      rw [same, missing]
    have begins := begins_assignmentsByRole still (Nat.le_trans drains.one_le enough)
    rwa [isOpen] at begins

end

/-- Assignments on two pages.  When the second one is asked for the first time, the service wants
fewer requests. -/
def throttledWorld : World where
  answer history
    | .listPage (.roleAssignments _) token =>
      if token = none then .ok ⟨[record "writer" "u", record "reader" "v"], some "next", none⟩
      else if history.length < 3 then .error ⟨.httpResponse, "slow down", some 429, none⟩
      else .ok ⟨[record "writer" "w"], none, none⟩
    | .listPage .. => .ok .none
    | .request _ => .error ⟨.other, ""⟩
    | .clientToken .. => .error (.unexpected "")
    | .credentialToken _ => .ok "token"
    | .openClient _ => ()
    | .operate _ => .ok .null
    | .freshName => ""
    | .sleep _ => .ok ()
    | .clock => (0 : Int)
  cancels _ _ := false
where
  record (role holder : String) : Value :=
    .record [("id", .text holder), ("principal_id", .text holder),
      ("role_definition_id", .text (roleDefinitionId "s" role))]
  assigned (role holder : String) : RoleAssignment :=
    ⟨holder, "", "", roleDefinitionId "s" role, holder, .null⟩

theorem role_assigned (role : String)
    (reads : (roleOfDefinitionId (roleDefinitionId "s" role)).toOption = some role)
    (holder : String) :
    roleOfDefinitionId (throttledWorld.assigned role holder).roleDefinitionId = .ok role ∧
      (throttledWorld.assigned role holder).role = role := by
  refine ⟨eq_ok_of_toOption reads, ?_⟩
  rw [RoleAssignment.role, throttledWorld.assigned, reads]
  rfl

/-- Nothing is kept when the service wants fewer requests.  Asked again, the index gets both
pages. -/
theorem assignmentsByRole_drains_throttledWorld :
    let index := onCache throttledWorld 2 .empty
    ∃ failure t entry u,
      index.assignmentsByRole "s" none .new = (.error (.fault (.failure failure)), t) ∧
      failure.isRateLimited = true ∧ index.part.get t = .empty ∧
      index.assignmentsByRole "s" none t = (.ok entry, u) ∧
      entry.ofRole "writer" =
        [throttledWorld.assigned "writer" "u", throttledWorld.assigned "writer" "w"] ∧
      index.representative? "s" "writer" none t =
        (.ok (some (throttledWorld.assigned "writer" "u")), u) := by
  intro index
  let front := [throttledWorld.assigned "writer" "u", throttledWorld.assigned "reader" "v"]
  let back := [throttledWorld.assigned "writer" "w"]
  have reader (holder : String) := role_assigned "reader" (by decide +kernel) holder
  have writer (holder : String) := role_assigned "writer" (by decide +kernel) holder
  have formed : ∀ a ∈ front ++ back, roleOfDefinitionId a.roleDefinitionId = .ok a.role := by
    simp [front, back, reader, writer]
  have first (before : List Call) : PageOf "/subscriptions/s" (throttledWorld.answer before
      (.listPage (.roleAssignments "/subscriptions/s") none)) (.ok ⟨front, some "next"⟩) :=
    .read rfl
  -- Three calls are made by then: a client is opened, and each page is asked for.
  have throttled : Drains throttledWorld "/subscriptions/s" (opened "s" .new) none 2 (.error _)
      [.listPage (.roleAssignments "/subscriptions/s") (some "next"),
        .listPage (.roleAssignments "/subscriptions/s") none, .openClient (.authorization "s")] :=
    .next (first _) (fun a member => formed a (List.mem_append_left _ member))
      (.stopped (.refused (.rateLimited (.inl rfl) (.inl rfl))))
  have drained (before : List Call) (late : 3 ≤ before.length) :
      ∃ after, Drains throttledWorld "/subscriptions/s" before none 2 (.ok (front ++ back))
        after := by
    have second : PageOf "/subscriptions/s" (throttledWorld.answer
        (.listPage (.roleAssignments "/subscriptions/s") none :: before)
        (.listPage (.roleAssignments "/subscriptions/s") (some "next"))) (.ok ⟨back, none⟩) := by
      have calm : ¬ (before.length + 1 < 3) := by omega
      simp only [throttledWorld, List.length_cons, calm]
      exact .read rfl
    exact ⟨_, .next (first before) (fun a member => formed a (List.mem_append_left _ member))
      (.last second fun a member => formed a (List.mem_append_right _ member))⟩
  have missing : (index.part.get Session.new).get? (scopeOr "s" none) = none := rfl
  obtain ⟨-, fails⟩ := (assignmentsByRole_drains missing).2 _ _ _ (Nat.le_refl 2) throttled
  obtain ⟨raised, t, stops, history, surfaces, same, -⟩ := fails _ rfl
  have still : (index.part.get t).get? (scopeOr "s" none) = none := by rw [same, missing]
  have late : 3 ≤ (opened "s" t).length := by
    unfold opened
    split <;> simp [history]
  obtain ⟨after, whole⟩ := drained (opened "s" t) late
  obtain ⟨keeps, -⟩ := (assignmentsByRole_drains still).2 _ _ _ (Nat.le_refl 2) whole
  obtain ⟨entry, u, handed, -, -, indexes, asked⟩ := keeps _ rfl
  cases surfaces with
  | failure other => cases other
  | rateLimited waits =>
    refine ⟨_, t, entry, u, stops, waits, same, handed, ?_, ?_⟩
    · simp [indexes.ofRole, front, back, reader, writer]
    · rw [(asked t (.inl rfl)).2]
      simp [front, back, writer]

end RoleIndex

end AccessSync
