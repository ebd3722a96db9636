import AccessSync.Proofs.Returns
import AccessSync.Sync.Outcome

/-!
# Results of workers

When several workers come to a result together, each of them returned its part of it.
-/

namespace AccessSync.Sync

variable {α : Type} {work : ResourceType → Act α} {type : ResourceType} {s t : Session}

theorem lift_ok {action : Act α} {a : α} (returns : lift action s = (.ok a, t)) :
    action s = (.ok a, t) := by
  unfold lift at returns
  split at returns
  next returned =>
    cases returns
    exact returned
  next => cases returns

theorem lift_of_ok {action : Act α} {a : α} (returns : action s = (.ok a, t)) :
    lift action s = (.ok a, t) := by
  rw [lift, returns]

theorem attempt_ok {action : Act α} {a : α} (attempted : attempt type action s = (.ok a, t)) :
    action s = (.ok a, t) := by
  unfold attempt at attempted
  split at attempted
  next returned =>
    cases attempted
    exact returned
  next =>
    split at attempted <;> cases attempted
  next => cases attempted
  next => cases attempted

theorem attempt_of_ok {action : Act α} {a : α} (returns : action s = (.ok a, t)) :
    attempt type action s = (.ok a, t) := by
  simp only [attempt, returns]

/-- Work that stops has no outcome. -/
theorem attempt_of_error (type : ResourceType) {action : Act α} {stop : Stop}
    (stops : action s = (.error stop, t)) :
    ∃ reason u, attempt type action s = (.error reason, u) := by
  match stop with
  | .fault (.failure f) =>
    simp only [attempt, stops]
    split <;> exact ⟨_, _, rfl⟩
  | .fault (.defect d) => exact ⟨_, _, by simp only [attempt, stops]; rfl⟩
  | .unfinished => exact ⟨_, _, by simp only [attempt, stops]; rfl⟩

theorem attemptAll_cons (first : ResourceType) (rest : List ResourceType) :
    (attemptAll work (first :: rest) s).1 =
      (first, (attempt first (work first) s).1) ::
        (attemptAll work rest (attempt first (work first) s).2).1 := rfl

theorem kinds_attemptAll (types : List ResourceType) :
    (attemptAll work types s).1.map Prod.fst = types := by
  induction types generalizing s with
  | nil => rfl
  | cons first rest inductionHypothesis =>
    rw [attemptAll_cons, List.map_cons, inductionHypothesis]

/-- A worker that has a result returned it from some session. -/
theorem exists_of_attemptAll {types : List ResourceType} {a : α}
    (member : (type, .ok a) ∈ (attemptAll work types s).1) :
    ∃ before after, work type before = (.ok a, after) := by
  induction types generalizing s with
  | nil => cases member
  | cons first rest inductionHypothesis =>
    rw [attemptAll_cons] at member
    obtain here | there := List.mem_cons.mp member
    · obtain ⟨rfl, same⟩ := Prod.mk.inj here
      exact ⟨s, (attempt type (work type) s).2, attempt_ok (Prod.ext same.symm rfl)⟩
    · exact inductionHypothesis there

/-- Every result that is collected is the outcome of a worker. -/
theorem mem_of_collect {cancelled : Bool} {earlier : Option (ResourceType × Failure)}
    {outcomes : List (ResourceType × Except SyncStop α)} {results : List (ResourceType × α)}
    (collected : collect cancelled earlier outcomes = .ok results) {a : α}
    (member : (type, a) ∈ results) : (type, .ok a) ∈ outcomes := by
  -- Only the outcome with a value adds to the results; the others are passed over or end it all.
  fun_induction collect cancelled earlier outcomes generalizing results with
  | case1 earlier => cases collected
  | case2 => cases collected
  | case3 =>
    cases collected
    cases member
  | case4 earlier first b rest inductionHypothesis =>
    obtain ⟨others, there, same⟩ := exists_of_bind_eq_ok collected
    cases same
    obtain here | later := List.mem_cons.mp member
    · cases here
      exact List.mem_cons_self
    · exact List.mem_cons_of_mem _ (inductionHypothesis there later)
  | case5 earlier _ failed cause rest inductionHypothesis =>
    exact List.mem_cons_of_mem _ (inductionHypothesis collected member)
  | case6 earlier _ stop rest cancels inductionHypothesis =>
    exact List.mem_cons_of_mem _ (inductionHypothesis collected member)
  | case7 => cases collected

/-! ## When there are results -/

/-- A failure that was met before, or the signal, leaves no results. -/
theorem collect_ne_ok {cancelled : Bool} {earlier : Option (ResourceType × Failure)}
    (doomed : cancelled = true ∨ earlier.isSome = true)
    (outcomes : List (ResourceType × Except SyncStop α)) (results : List (ResourceType × α)) :
    collect cancelled earlier outcomes ≠ .ok results := by
  fun_induction collect cancelled earlier outcomes generalizing results with
  | case1 => exact nofun
  | case2 => exact nofun
  | case3 calm => simp [calm] at doomed
  | case4 earlier first a rest inductionHypothesis =>
    intro collected
    obtain ⟨others, there, -⟩ := exists_of_bind_eq_ok collected
    exact inductionHypothesis doomed others there
  | case5 earlier _ failed cause rest inductionHypothesis =>
    exact inductionHypothesis (.inr (by cases earlier <;> rfl)) results
  | case6 earlier _ stop rest cancels inductionHypothesis =>
    exact inductionHypothesis doomed results
  | case7 => exact nofun

/-- Where one worker has no result, there are none. -/
theorem collect_ne_ok_of_error {cancelled : Bool} {earlier : Option (ResourceType × Failure)}
    {outcomes : List (ResourceType × Except SyncStop α)} {reason : SyncStop}
    (member : (type, .error reason) ∈ outcomes) (results : List (ResourceType × α)) :
    collect cancelled earlier outcomes ≠ .ok results := by
  fun_induction collect cancelled earlier outcomes generalizing results with
  | case1 => exact nofun
  | case2 => exact nofun
  | case3 => cases member
  | case4 earlier first a rest inductionHypothesis =>
    intro collected
    obtain ⟨others, there, -⟩ := exists_of_bind_eq_ok collected
    obtain here | later := List.mem_cons.mp member
    · cases here
    · exact inductionHypothesis later others there
  | case5 earlier _ failed cause rest =>
    exact collect_ne_ok (.inr (by cases earlier <;> rfl)) rest results
  | case6 earlier _ stop rest cancels =>
    refine collect_ne_ok ?_ rest results
    simp only [Bool.and_eq_true, Bool.or_eq_true] at cancels
    exact cancels.2.symm
  | case7 => exact nofun

/-- The results of workers that all have one. -/
theorem collect_ok (results : List (ResourceType × α)) :
    collect false none (results.map fun (type, a) => (type, .ok a)) = .ok results := by
  induction results with
  | nil => rfl
  | cons result rest inductionHypothesis =>
    rw [List.map_cons, collect, inductionHypothesis]
    rfl

/-- There are results just if all workers have one and the signal is not given. -/
theorem collect_eq_ok_iff {cancelled : Bool} {outcomes : List (ResourceType × Except SyncStop α)}
    {results : List (ResourceType × α)} :
    collect cancelled none outcomes = .ok results ↔
      cancelled = false ∧ outcomes = results.map fun (type, a) => (type, .ok a) := by
  constructor
  · intro collected
    refine ⟨?_, ?_⟩
    · cases cancelled with
      | false => rfl
      | true => exact absurd collected (collect_ne_ok (.inl rfl) outcomes results)
    · induction outcomes generalizing results with
      | nil => cases cancelled <;> cases collected; rfl
      | cons worker rest inductionHypothesis =>
        obtain ⟨type, outcome⟩ := worker
        cases outcome with
        | error reason =>
          exact absurd collected (collect_ne_ok_of_error List.mem_cons_self results)
        | ok a =>
          obtain ⟨others, later, same⟩ := exists_of_bind_eq_ok collected
          cases same
          rw [List.map_cons, inductionHypothesis later]
  · rintro ⟨rfl, rfl⟩
    exact collect_ok results

theorem exists_of_parallel {context : Context Session} {types : List ResourceType}
    {results : List (ResourceType × α)}
    (returns : parallel context types work s = (.ok results, t)) {a : α}
    (member : (type, a) ∈ results) : ∃ before after, work type before = (.ok a, after) := by
  have collected : collect (context.isCancelled (attemptAll work types s).2).1 none
      (attemptAll work types s).1 = .ok results := congrArg Prod.fst returns
  exact exists_of_attemptAll (mem_of_collect collected member)

/-- Work in parallel has a result for every kind, or none at all. -/
theorem parallel_kinds {context : Context Session} {types : List ResourceType}
    {results : List (ResourceType × α)}
    (returns : parallel context types work s = (.ok results, t)) :
    results.map Prod.fst = types := by
  have collected : collect (context.isCancelled (attemptAll work types s).2).1 none
      (attemptAll work types s).1 = .ok results := congrArg Prod.fst returns
  obtain ⟨-, all⟩ := collect_eq_ok_iff.mp collected
  have kinds : (attemptAll work types s).1.map Prod.fst = types := kinds_attemptAll types
  rw [all] at kinds
  simpa [Function.comp_def] using kinds

/-! ## Which reason is reported

A worker fails hard if it ends with a fault and not because the run is cancelled.  A failure waits
until all workers are looked at; any other stop, unless it is a cancellation, is passed on at once.
-/

/-- The worker ended with a fault of its own. -/
def isHard : SyncStop → Bool
  | .failed .. => true
  | .stopped (.fault fault) => !(Stop.fault fault).isCancelled
  | .stopped .unfinished => false

/-- The stop is passed on as soon as it is met. -/
def isPassedOn : SyncStop → Bool
  | .failed .. => false
  | .stopped stop => !stop.isCancelled

def stop? : Except SyncStop α → Option SyncStop
  | .ok _ => none
  | .error stop => some stop

/-- The worker ended for such a reason. -/
def endedFor (reason : SyncStop → Bool) (worker : ResourceType × Except SyncStop α) : Bool :=
  (stop? worker.2).any reason

@[simp] theorem endedFor_ok (reason : SyncStop → Bool) (a : α) :
    endedFor reason (type, .ok a) = false := rfl

@[simp] theorem endedFor_error (reason : SyncStop → Bool) (stop : SyncStop) :
    endedFor reason (type, (.error stop : Except SyncStop α)) = reason stop := rfl

/-- No worker ended for such a reason. -/
def Spared (reason : SyncStop → Bool) (outcomes : List (ResourceType × Except SyncStop α)) : Prop :=
  ∀ worker ∈ outcomes, endedFor reason worker = false

/-- The failure of the worker that was started first of those that failed. -/
def firstFailure? : List (ResourceType × Except SyncStop α) → Option (ResourceType × Failure)
  | [] => none
  | (_, .error (.failed type cause)) :: _ => some (type, cause)
  | _ :: rest => firstFailure? rest

theorem eq_cons_of_firstFailure? {outcomes : List (ResourceType × Except SyncStop α)}
    {kind : ResourceType} {cause : Failure}
    (first : firstFailure? (outcomes.take 1) = some (kind, cause)) :
    ∃ type rest, outcomes = (type, .error (.failed kind cause)) :: rest := by
  match outcomes with
  | [] => cases first
  | (type, .ok a) :: rest => cases first
  | (type, .error (.stopped stop)) :: rest => cases first
  | (type, .error (.failed failing reason)) :: rest =>
    cases first
    exact ⟨type, rest, rfl⟩

section Reported

variable {outcomes before after : List (ResourceType × Except SyncStop α)}

/-- Under the signal, workers that pass nothing on leave no more than the first failure behind. -/
theorem collect_append (spared : Spared isPassedOn before)
    (earlier : Option (ResourceType × Failure)) :
    ∃ results, collect true earlier (before ++ after) =
      (collect true (earlier.or (firstFailure? before)) after).map (results ++ ·) := by
  -- What is carried along is the failure to be reported: the first one met so far.
  induction before generalizing earlier with
  | nil =>
    refine ⟨[], ?_⟩
    rw [firstFailure?, Option.or_none, List.nil_append]
    cases collect true earlier after <;> rfl
  | cons worker before inductionHypothesis =>
    obtain ⟨here, others⟩ := List.forall_mem_cons.mp spared
    obtain ⟨first, outcome⟩ := worker
    cases outcome with
    | ok a =>
      obtain ⟨results, collected⟩ := inductionHypothesis others earlier
      refine ⟨(first, a) :: results, ?_⟩
      simp only [List.cons_append, collect, collected, firstFailure?]
      cases collect true (earlier.or (firstFailure? before)) after <;> rfl
    | error stop =>
      cases stop with
      | failed type cause =>
        obtain ⟨results, collected⟩ := inductionHypothesis others (earlier.or (some (type, cause)))
        refine ⟨results, ?_⟩
        simp only [List.cons_append, collect, collected, firstFailure?]
        cases earlier <;> rfl
      | stopped stop =>
        have cancelled : stop.isCancelled = true := by simpa [isPassedOn] using here
        obtain ⟨results, collected⟩ := inductionHypothesis others earlier
        refine ⟨results, ?_⟩
        simpa [collect, firstFailure?, cancelled] using collected

theorem firstFailure?_append {failing : ResourceType} {cause : Failure}
    (soft : Spared isHard before) :
    firstFailure? (before ++ (type, .error (.failed failing cause)) :: after) =
      some (failing, cause) := by
  induction before with
  | nil => rfl
  | cons worker before inductionHypothesis =>
    obtain ⟨here, others⟩ := List.forall_mem_cons.mp soft
    obtain ⟨first, outcome⟩ := worker
    cases outcome with
    | ok a => exact inductionHypothesis others
    | error stop =>
      cases stop with
      | failed earlier another => simp [isHard] at here
      | stopped stop => exact inductionHypothesis others

/-- The first worker that ended for such a reason, if there is one. -/
theorem exists_first (reason : SyncStop → Bool)
    (outcomes : List (ResourceType × Except SyncStop α)) :
    Spared reason outcomes ∨ ∃ before type stop after,
      outcomes = before ++ (type, .error stop) :: after ∧ reason stop = true ∧
        Spared reason before := by
  cases found : outcomes.find? (endedFor reason) with
  | none => exact .inl (by simpa [Spared] using found)
  | some worker =>
    obtain ⟨ended, before, after, rfl, first⟩ := List.find?_eq_some_iff_append.mp found
    obtain ⟨type, outcome⟩ := worker
    cases outcome with
    | ok a => simp at ended
    | error stop =>
      exact .inr ⟨before, type, stop, after, rfl, ended, by simpa [Spared] using first⟩

/-- Under the signal, the reason that is reported is the first one that is passed on, and without
one the first hard failure. -/
theorem exists_reported (hard : ¬ Spared isHard outcomes) :
    ∃ before type stop after, outcomes = before ++ (type, .error stop) :: after ∧
      collect true none outcomes = .error stop ∧
      (isPassedOn stop = true ∧ Spared isPassedOn before ∨
        isHard stop = true ∧ Spared isHard before ∧ Spared isPassedOn outcomes) := by
  obtain spared | ⟨before, type, stop, after, rfl, ended, first⟩ := exists_first isPassedOn outcomes
  · obtain soft | ⟨before, type, stop, after, rfl, ended, first⟩ := exists_first isHard outcomes
    · exact absurd soft hard
    · refine ⟨before, type, stop, after, rfl, ?_, .inr ⟨ended, first, spared⟩⟩
      cases stop with
      | failed failing cause =>
        obtain ⟨results, collected⟩ := collect_append spared none
        rw [List.append_nil, firstFailure?_append first] at collected
        exact collected
      | stopped stop =>
        -- A stop that is hard and not passed on would be a cancellation and none.
        have kept := spared (type, .error (.stopped stop)) (by simp)
        cases stop <;> simp [isHard, isPassedOn] at ended kept
        simp [ended] at kept
  · refine ⟨before, type, stop, after, rfl, ?_, .inl ⟨ended, first⟩⟩
    cases stop with
    | failed failing cause => simp [isPassedOn] at ended
    | stopped stop =>
      obtain ⟨results, collected⟩ := collect_append first none
      rw [collected]
      simp only [isPassedOn, Bool.not_eq_true'] at ended
      simp [collect, ended, Except.map]

end Reported

end AccessSync.Sync
