import AccessSync.Proofs.Catalog.Signal
import AccessSync.Proofs.Sync.Interleaving
import AccessSync.Proofs.Sync.Outcome

/-!
# Workers that fail

A worker that ends with a fault of its own gives the cancellation signal, and nothing that the other
workers go on to do takes it back.  So when the workers are looked at, a failure among them is met
under the signal: those that were cancelled are passed over, and what is reported is the fault of
the worker that was started first, unless a later worker met a fault that nobody handles.
-/

namespace AccessSync.Sync

variable {α ω : Type} {c : Connector} {type : ResourceType} {s t : Session}

/-! ## One worker -/

theorem keeps_signalled_perform (call : PageCall) : Keeps Signalled (perform c type call) := by
  have companions := Catalog.companions_signalled (c := c) type
  cases call with
  | list parent cursor =>
    exact keeps_iff_agrees.mpr (Catalog.agrees_list companions parent cursor)
  | entitlements resource =>
    exact keeps_iff_agrees.mpr (Catalog.agrees_entitlements companions resource)
  | grants resource cursor =>
    exact keeps_iff_agrees.mpr (Catalog.agrees_grants companions resource cursor)
  | report message => exact keeps_report lasting_signalled _ _ _

theorem keeps_signalled_run (task : Task α) : Keeps Signalled (task.run c type) := by
  induction task with
  | done a => exact Ensures.pure trivial
  | stop reason => exact Ensures.throw reason
  | ask call next inductionHypothesis =>
    exact (keeps_signalled_perform call).bind fun answer _ => inductionHypothesis answer

theorem signalled_attempt {action : Act α} (keeps : Keeps Signalled action)
    (given : Signalled s) : Signalled (attempt type action s).2 := by
  match ends : action s with
  | (.ok a, t) =>
    rw [attempt_of_ok ends]
    exact keeps.kept given ends
  | (.error (.fault (.failure f)), t) =>
    have after := keeps.kept given ends
    simp only [attempt, ends]
    split
    next => exact after
    next => rfl
  | (.error (.fault (.defect d)), t) =>
    simp only [attempt, ends]
    rfl
  | (.error .unfinished, t) =>
    simp only [attempt, ends]
    exact keeps.kept given ends

theorem attempt_signals {action : Act α}
    (hard : endedFor isHard (type, (attempt type action s).1) = true) :
    Signalled (attempt type action s).2 := by
  match ends : action s with
  | (.ok a, t) =>
    rw [attempt_of_ok ends] at hard
    cases hard
  | (.error (.fault (.failure f)), t) =>
    by_cases cancelled : f.isCancelled = true
    · simp [attempt, ends, cancelled, isHard, Stop.isCancelled] at hard
    · simp only [attempt, ends, if_neg cancelled]
      rfl
  | (.error (.fault (.defect d)), t) =>
    simp only [attempt, ends]
    rfl
  | (.error .unfinished, t) =>
    simp only [attempt, ends] at hard
    cases hard

theorem keeps_signalled_advance (task : Task α) (given : Signalled s) :
    Signalled (advance c type task s).2 := by
  cases task with
  | done a => exact given
  | stop reason => exact signalled_attempt (Ensures.throw reason) given
  | ask call next =>
    refine signalled_attempt ?_ given
    exact (keeps_signalled_perform call).bind fun _ _ => Ensures.pure trivial

theorem advance_signals (task : Task α)
    (hard : endedFor isHard (type, (advance c type task s).1) = true) :
    Signalled (advance c type task s).2 := by
  cases task with
  | done a => cases hard
  | stop reason => exact attempt_signals hard
  | ask call next => exact attempt_signals hard

/-! ## All workers -/

/-- None of the workers failed hard, unless the signal is given. -/
def Announced (workers : List (ResourceType × Except SyncStop ω)) (s : Session) : Prop :=
  Signalled s ∨ Spared isHard workers

theorem announced_turn (n : Nat) {pool : Pool α} (announced : Announced pool s) :
    Announced (turn c n pool s).1 (turn c n pool s).2 := by
  obtain same | ⟨before, type, task, after, rfl, turned⟩ := turn_cases (c := c) n pool s
  · rw [same]
    exact announced
  · rw [turned]
    cases here : endedFor isHard (type, (advance c type task s).1) with
    | true => exact .inl (advance_signals task here)
    | false =>
      obtain given | spared := announced
      · exact .inl (keeps_signalled_advance task given)
      · refine .inr fun worker member => ?_
        simp only [List.mem_append, List.mem_cons] at member
        obtain earlier | rfl | later := member
        · exact spared worker (by simp [earlier])
        · exact here
        · exact spared worker (by simp [later])

theorem announced_follow (schedule : List Nat) {pool : Pool α} (announced : Announced pool s) :
    Announced (follow c schedule pool s).1 (follow c schedule pool s).2 :=
  follow_keeps (fun n _ _ => announced_turn n) schedule announced

theorem signalled_finish (pool : Pool α) (given : Signalled s) :
    Signalled (finish c pool s).2 := by
  induction pool generalizing s with
  | nil => exact given
  | cons worker rest inductionHypothesis =>
    match worker with
    | (type, .ok task) =>
      exact inductionHypothesis (signalled_attempt (keeps_signalled_run task) given)
    | (type, .error stop) => exact inductionHypothesis given

theorem announced_finish {pool : Pool α} (announced : Announced pool s) :
    Announced (finish c pool s).1 (finish c pool s).2 := by
  obtain given | spared := announced
  · exact .inl (signalled_finish pool given)
  induction pool generalizing s with
  | nil => exact .inr fun _ member => by cases member
  | cons worker rest inductionHypothesis =>
    obtain ⟨soft, others⟩ := List.forall_mem_cons.mp spared
    match worker with
    | (type, .error stop) =>
      obtain given | spared := inductionHypothesis (s := s) others
      · exact .inl given
      · exact .inr (List.forall_mem_cons.mpr ⟨soft, spared⟩)
    | (type, .ok task) =>
      cases here : endedFor isHard (type, (attempt type (task.run c type) s).1) with
      | true => exact .inl (signalled_finish rest (attempt_signals here))
      | false =>
        obtain given | spared :=
          inductionHypothesis (s := (attempt type (task.run c type) s).2) others
        · exact .inl given
        · exact .inr (List.forall_mem_cons.mpr ⟨here, spared⟩)

theorem announced_outcomes (schedule : List Nat) (types : List ResourceType)
    (task : ResourceType → Task α) (s : Session) :
    Announced (outcomes c schedule types task s).1 (outcomes c schedule types task s).2 := by
  apply announced_finish
  apply announced_follow
  refine .inr fun worker member => ?_
  obtain ⟨type, -, rfl⟩ := List.mem_map.mp member
  rfl

/-- Where a worker failed hard, the phase ends under the signal, and with the reason that is
reported of the workers. -/
theorem interleave_of_hard {schedule : List Nat} {types : List ResourceType}
    {task : ResourceType → Task α}
    (hard : ¬ Spared isHard (outcomes c schedule types task s).1) :
    interleave c schedule types task s =
        (collect true none (outcomes c schedule types task s).1,
          (interleave c schedule types task s).2) ∧
      Signalled (interleave c schedule types task s).2 := by
  have given : Signalled (outcomes c schedule types task s).2 :=
    (announced_outcomes schedule types task s).resolve_right hard
  have looked : (c.context.isCancelled (outcomes c schedule types task s).2).1 = true := by
    change (_ || _) = true
    rw [given, Bool.true_or]
  rw [interleave_outcomes, looked]
  exact ⟨rfl, Catalog.lasting_look lasting_signalled _ given⟩

/-! ## What is reported -/

/-- If the worker ended with a failure, this names the kind of the worker. -/
def Named (worker : ResourceType × Except SyncStop ω) : Prop :=
  ∀ kind cause, worker.2 = .error (.failed kind cause) → kind = worker.1

theorem named_attempt (action : Act α) (s : Session) :
    Named (type, (attempt type action s).1) := by
  intro kind cause ends
  simp only [attempt] at ends
  split at ends
  next => cases ends
  next =>
    split at ends
    next => cases ends
    next =>
      cases ends
      rfl
  next => cases ends
  next => cases ends

theorem named_advance (task : Task α) (s : Session) : Named (type, (advance c type task s).1) := by
  cases task with
  | done a =>
    intro kind cause ends
    cases ends
  | stop reason => exact named_attempt _ s
  | ask call next => exact named_attempt _ s

theorem named_turn (n : Nat) {pool : Pool α} (named : ∀ worker ∈ pool, Named worker) :
    ∀ worker ∈ (turn c n pool s).1, Named worker := by
  obtain same | ⟨before, type, task, after, rfl, turned⟩ := turn_cases (c := c) n pool s
  · rw [same]
    exact named
  · rw [turned]
    obtain ⟨earlier, -, later⟩ := by simpa only [List.forall_mem_append, List.forall_mem_cons]
      using named
    exact List.forall_mem_append.mpr
      ⟨earlier, List.forall_mem_cons.mpr ⟨named_advance task s, later⟩⟩

theorem named_follow (schedule : List Nat) {pool : Pool α} (named : ∀ worker ∈ pool, Named worker) :
    ∀ worker ∈ (follow c schedule pool s).1, Named worker :=
  follow_keeps (P := fun pool _ => ∀ worker ∈ pool, Named worker) (fun n _ _ => named_turn n)
    schedule named

theorem named_finish {pool : Pool α} (named : ∀ worker ∈ pool, Named worker) :
    ∀ worker ∈ (finish c pool s).1, Named worker := by
  induction pool generalizing s with
  | nil => exact fun _ member => by cases member
  | cons worker rest inductionHypothesis =>
    obtain ⟨here, others⟩ := List.forall_mem_cons.mp named
    match worker with
    | (type, .ok task) =>
      exact List.forall_mem_cons.mpr ⟨named_attempt _ s, inductionHypothesis others⟩
    | (type, .error stop) =>
      refine List.forall_mem_cons.mpr ⟨fun kind cause ends => ?_, inductionHypothesis others⟩
      cases ends
      exact here kind cause rfl

theorem named_outcomes (schedule : List Nat) (types : List ResourceType)
    (task : ResourceType → Task α) (s : Session) :
    ∀ worker ∈ (outcomes c schedule types task s).1, Named worker := by
  apply named_finish
  apply named_follow
  intro worker member kind cause ends
  obtain ⟨type, -, rfl⟩ := List.mem_map.mp member
  cases ends

/-- The workers stand in the order in which they were started.  If one of them failed hard, the
phase ends for the first stop that nobody handles; if all faults are failures, it ends for the first
of these, and this names its kind.  Workers that were cancelled along are never reported. -/
theorem interleave_reports (schedule : List Nat) (types : List ResourceType)
    (task : ResourceType → Task α) (s : Session)
    (hard : ¬ Spared isHard (outcomes c schedule types task s).1) :
    (outcomes c schedule types task s).1.map Prod.fst = types ∧
      ∃ before type stop after,
        (outcomes c schedule types task s).1 = before ++ (type, .error stop) :: after ∧
        (interleave c schedule types task s).1 = .error stop ∧
        (∀ kind cause, stop = .failed kind cause → kind = type) ∧
        (isPassedOn stop = true ∧ Spared isPassedOn before ∨
          isHard stop = true ∧ Spared isHard before ∧
            Spared isPassedOn (outcomes c schedule types task s).1) := by
  refine ⟨kinds_outcomes schedule types task s, ?_⟩
  obtain ⟨before, type, stop, after, split, reported, first⟩ := exists_reported hard
  obtain ⟨ends, -⟩ := interleave_of_hard hard
  have named := named_outcomes (c := c) schedule types task s (type, .error stop) (by simp [split])
  refine ⟨before, type, stop, after, split, ?_, fun kind cause same => ?_, first⟩
  · rw [ends, reported]
  · exact named kind cause (congrArg Except.error same)

/-- A directory that refuses everything, but for a list of organizations that is null. -/
def refusals : World where
  answer _
    | .request r =>
      if r.url == "https://graph.microsoft.com/v1.0/organization" then
        .ok ⟨200, [], "\x7b\"value\":null\x7d"⟩
      else .ok ⟨403, [], ""⟩
    | .clientToken .. => .error (.unexpected "")
    | .credentialToken _ => .ok ""
    | .openClient _ => ()
    | .listPage .. => .ok .none
    | .operate _ => .ok .null
    | .freshName => ""
    | .sleep _ => .ok ()
    | .clock => (0 : Int)
  cancels _ _ := false

/-- The listing of users fails, and that of applications meets the null list. -/
theorem attemptAll_refusals :
    ∃ c cause rest stop, Connector.ofConfig refusals 5 (.mapping []) true = .ok c ∧
      (attemptAll (listType c []) (waves.headD []) Session.new).1 =
        (.user, .error (.failed .user cause)) :: rest ∧
      (parallel c.context (waves.headD []) (listType c []) Session.new).1 = .error stop ∧
      isPassedOn stop = true := by
  have evaluated : ((Connector.ofConfig refusals 5 (.mapping []) true).toOption.map fun c =>
      ((firstFailure? ((attemptAll (listType c []) (waves.headD []) Session.new).1.take 1)).map
        Prod.fst,
      (stop? (parallel c.context (waves.headD []) (listType c []) Session.new).1).any
        isPassedOn)) = some (some .user, true) := by
    decide +kernel
  obtain ⟨c, configured, ended⟩ := Option.map_eq_some_iff.mp evaluated
  obtain ⟨failed, passed⟩ := Prod.mk.inj ended
  obtain ⟨⟨kind, cause⟩, first, same⟩ := Option.map_eq_some_iff.mp failed
  cases same
  obtain ⟨type, rest, outcomes⟩ := eq_cons_of_firstFailure? first
  have kinds : (attemptAll (listType c []) (waves.headD []) Session.new).1.map Prod.fst =
      waves.headD [] := kinds_attemptAll _
  rw [outcomes] at kinds
  obtain rfl : type = .user := (List.cons.inj kinds).1
  cases reported : (parallel c.context (waves.headD []) (listType c []) Session.new).1 with
  | ok results =>
    rw [reported] at passed
    cases passed
  | error stop =>
    rw [reported] at passed
    exact ⟨c, cause, rest, stop, eq_ok_of_toOption configured, outcomes, reported, passed⟩

theorem interleave_reports_refusals :
    ∃ c type stop, (¬ Spared isHard (outcomes c [] (waves.headD [])
        (Task.listType c.limit []) Session.new).1) ∧
      (interleave c [] (waves.headD []) (Task.listType c.limit []) Session.new).1 = .error stop ∧
      (type, .error stop) ∈ (outcomes c [] (waves.headD [])
        (Task.listType c.limit []) Session.new).1 := by
  obtain ⟨c, cause, rest, stop, -, outcome, -⟩ := attemptAll_refusals
  have works : (fun type => (Task.listType c.limit [] type).run c type) = listType c [] :=
    funext fun type => Task.run_listType c type []
  have same : (outcomes c [] (waves.headD []) (Task.listType c.limit []) Session.new).1 =
      (.user, .error (.failed .user cause)) :: rest := by
    rw [← outcome, ← works, ← finish_start]
    rfl
  have hard : ¬ Spared isHard (outcomes c [] (waves.headD [])
      (Task.listType c.limit []) Session.new).1 := by
    intro spared
    rw [same] at spared
    have soft := spared _ List.mem_cons_self
    cases soft
  obtain ⟨-, before, type, stop, after, split, reported, -⟩ :=
    interleave_reports [] (waves.headD []) (Task.listType c.limit []) Session.new hard
  refine ⟨c, type, stop, hard, reported, ?_⟩
  rw [split]
  exact List.mem_append_right before List.mem_cons_self

/-- A failure of the worker that was started first, and then a defect: the defect is reported. -/
theorem exists_failure_masked :
    ∃ c cause rest, Connector.ofConfig refusals 5 (.mapping []) true = .ok c ∧
      (attemptAll (listType c []) (waves.headD []) Session.new).1 =
        (.user, .error (.failed .user cause)) :: rest ∧
      (parallel c.context (waves.headD []) (listType c []) Session.new).1 ≠
        .error (.failed .user cause) := by
  obtain ⟨c, cause, rest, stop, configured, outcomes, reported, passed⟩ := attemptAll_refusals
  refine ⟨c, cause, rest, configured, outcomes, fun same => ?_⟩
  rw [reported] at same
  cases same
  cases passed

end AccessSync.Sync
