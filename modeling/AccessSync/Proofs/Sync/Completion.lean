import AccessSync.Proofs.Sync.Signal
import AccessSync.Proofs.Sync.Walk

/-!
# All or nothing

A sync goes from phase to phase: the waves of the listing, then the access.  It comes to a document
just if in every phase all workers have a result and the signal is not seen when they are looked at.
If in some phase a worker failed hard, the signal is given when the sync ends.
-/

namespace AccessSync.Sync

/-- How the workers of a phase ended: those without a result with the reason.  The session is the
one in which they are looked at. -/
structure Ended where
  stops : List (ResourceType × Option SyncStop)
  session : Session

variable {α : Type}

namespace Ended

/-- The workers as they ended. -/
def of (ended : List (ResourceType × Except SyncStop α) × Session) : Ended :=
  ⟨ended.1.map fun (type, outcome) => (type, stop? outcome), ended.2⟩

/-- All workers have a result, and the signal is not seen. -/
def complete (c : Connector) (ended : Ended) : Bool :=
  ended.stops.all (fun (_, stop) => stop.isNone) && !(c.context.isCancelled ended.session).1

def failed (ended : Ended) : Bool := ended.stops.any fun (_, stop) => stop.any isHard

def kinds (ended : Ended) : List ResourceType := ended.stops.map Prod.fst

end Ended

variable (c : Connector)

/-- The waves that the listing comes to: those after a wave that has no results it does not. -/
def listPhases : List (List ResourceType) → List (List Nat) →
    List (ResourceType × List Resource) → Session → List Ended
  | [], _, _, _ => []
  | wave :: rest, schedules, resources, s =>
    .of (outcomes c (schedules.headD []) wave (Task.listType c.limit resources) s) ::
      match interleave c (schedules.headD []) wave (Task.listType c.limit resources) s with
      | (.ok found, t) => listPhases rest schedules.tail (resources ++ found) t
      | (.error _, _) => []

/-- The phases that a sync comes to. -/
def phases (schedule : Schedule) (s : Session) : List Ended :=
  listPhases c waves schedule.waves [] (now c s).2 ++
    match listWavesIn c waves schedule.waves [] (now c s).2 with
    | (.ok resources, t) =>
      [.of (outcomes c schedule.access (resources.map Prod.fst)
        (Task.accessOfType c.limit resources) t)]
    | (.error _, _) => []

variable {c} {s t : Session}

/-! ## One phase -/

theorem exists_results {outcomes : List (ResourceType × Except SyncStop α)}
    (ended : ∀ worker ∈ outcomes, stop? worker.2 = none) :
    ∃ results : List (ResourceType × α),
      outcomes = results.map fun (type, a) => (type, .ok a) := by
  induction outcomes with
  | nil => exact ⟨[], rfl⟩
  | cons worker rest inductionHypothesis =>
    obtain ⟨here, others⟩ := List.forall_mem_cons.mp ended
    obtain ⟨results, rfl⟩ := inductionHypothesis others
    obtain ⟨type, outcome⟩ := worker
    cases outcome with
    | ok a => exact ⟨(type, a) :: results, rfl⟩
    | error stop => cases here

namespace Ended

variable {ended : List (ResourceType × Except SyncStop α) × Session}

theorem complete_iff : (of ended).complete c = true ↔
    (∃ results : List (ResourceType × α), ended.1 = results.map fun (type, a) => (type, .ok a)) ∧
      (c.context.isCancelled ended.2).1 = false := by
  simp only [complete, of, Bool.and_eq_true, Bool.not_eq_true', List.all_map, List.all_eq_true,
    Function.comp_apply, Option.isNone_iff_eq_none]
  refine and_congr_left' ⟨exists_results, ?_⟩
  rintro ⟨results, same⟩ worker member
  rw [same] at member
  obtain ⟨_, -, rfl⟩ := List.mem_map.mp member
  rfl

theorem failed_iff : (of ended).failed = true ↔ ¬ Spared isHard ended.1 := by
  simp [failed, of, Spared, endedFor]

theorem not_failed {ended : Ended} (complete : ended.complete c = true) : ¬ ended.failed := by
  simp only [Ended.complete, Bool.and_eq_true, List.all_eq_true, Option.isNone_iff_eq_none]
    at complete
  simp only [failed, List.any_eq_true]
  rintro ⟨worker, member, hard⟩
  simp [complete.1 worker member] at hard

end Ended

theorem kinds_of_outcomes (turns : List Nat) (types : List ResourceType)
    (task : ResourceType → Task α) (s : Session) :
    (Ended.of (outcomes c turns types task s)).kinds = types := by
  have same : (Ended.of (outcomes c turns types task s)).kinds =
      (outcomes c turns types task s).1.map Prod.fst := by
    simp [Ended.kinds, Ended.of, Function.comp_def]
  exact same.trans (kinds_outcomes turns types task s)

/-- A phase comes to results if it is complete.  If not, it ends without, and under the signal if a
worker failed hard. -/
theorem interleave_cases (turns : List Nat) (types : List ResourceType)
    (task : ResourceType → Task α) (s : Session) :
    (∃ results t, interleave c turns types task s = (.ok results, t) ∧ t.cancelled = false ∧
      (Ended.of (outcomes c turns types task s)).complete c = true) ∨
    ∃ reason t, interleave c turns types task s = (.error reason, t) ∧
      (Ended.of (outcomes c turns types task s)).complete c = false ∧
      ((Ended.of (outcomes c turns types task s)).failed = true → Signalled t) := by
  match ended : interleave c turns types task s with
  | (.ok results, t) =>
    obtain ⟨all, looked⟩ := interleave_ok ended
    refine .inl ⟨results, t, rfl, ?_, Ended.complete_iff.mpr ⟨⟨results, all⟩, by rw [looked]⟩⟩
    -- What was seen of the signal is what the session says of it from then on.
    have kept : (c.context.isCancelled (outcomes c turns types task s).2).2.cancelled =
        (c.context.isCancelled (outcomes c turns types task s).2).1 := rfl
    rwa [looked] at kept
  | (.error reason, t) =>
    refine .inr ⟨reason, t, rfl, ?_, fun failed => ?_⟩
    · rw [← Bool.not_eq_true]
      intro complete
      obtain ⟨⟨results, all⟩, unsigned⟩ := Ended.complete_iff.mp complete
      have collected := collect_eq_ok_iff.mpr ⟨unsigned, all⟩
      rw [interleave_outcomes, collected] at ended
      cases ended
    · have given := (interleave_of_hard (Ended.failed_iff.mp failed)).2
      rwa [ended] at given

/-! ## All phases -/

/-- Either all waves are listed, and each of them was complete, or the listing ends with a wave that
was not, and under the signal if a worker failed hard. -/
theorem listPhases_cases (waves : List (List ResourceType)) (schedules : List (List Nat))
    (resources : List (ResourceType × List Resource)) (s : Session) :
    (∃ found t, listWavesIn c waves schedules resources s = (.ok found, t) ∧
      (listPhases c waves schedules resources s).map Ended.kinds = waves ∧
      ∀ ended ∈ listPhases c waves schedules resources s, ended.complete c = true) ∨
    ∃ reason t, listWavesIn c waves schedules resources s = (.error reason, t) ∧
      (∃ ended ∈ listPhases c waves schedules resources s, ended.complete c = false) ∧
      ∀ ended ∈ listPhases c waves schedules resources s, ended.failed = true → Signalled t := by
  -- On the waves: the first one that is not complete is the last one that the listing comes to.
  induction waves generalizing schedules resources s with
  | nil => exact .inl ⟨resources, s, rfl, rfl, by simp [listPhases]⟩
  | cons wave rest inductionHypothesis =>
    obtain ⟨found, t, here, -, complete⟩ | ⟨reason, t, here, incomplete, signals⟩ :=
      interleave_cases (c := c) (schedules.headD []) wave (Task.listType c.limit resources) s
    · have goes : listWavesIn c (wave :: rest) schedules resources s =
          listWavesIn c rest schedules.tail (resources ++ found) t := Run.bind_of_ok here
      rw [goes, listPhases, here]
      obtain ⟨all, u, listed, kinds, others⟩ | ⟨reason, u, stopped, incomplete, signals⟩ :=
        inductionHypothesis schedules.tail (resources ++ found) t
      · refine .inl ⟨all, u, listed, ?_, List.forall_mem_cons.mpr ⟨complete, others⟩⟩
        rw [List.map_cons, kinds, kinds_of_outcomes]
      · obtain ⟨ended, member, incomplete⟩ := incomplete
        refine .inr ⟨reason, u, stopped, ⟨ended, List.mem_cons_of_mem _ member, incomplete⟩, ?_⟩
        exact List.forall_mem_cons.mpr ⟨fun failed => absurd failed (Ended.not_failed complete),
          signals⟩
    · have stops : listWavesIn c (wave :: rest) schedules resources s = (.error reason, t) :=
        Run.bind_of_error here
      rw [stops, listPhases, here]
      exact .inr ⟨reason, t, rfl, ⟨_, List.mem_cons_self, incomplete⟩, by simpa using signals⟩

/-- With workers, a sync either comes to a document, and all phases were complete, or it ends in a
phase that was not, and under the signal if a worker failed hard. -/
theorem runIn_cases (schedule : Schedule) {workers : Int} (some : 1 ≤ workers) (s : Session) :
    (∃ d t, runIn c schedule workers s = (.ok d, t) ∧ t.cancelled = false ∧
      (phases c schedule s).map Ended.kinds = waves ++ [waves.flatten] ∧
      ∀ ended ∈ phases c schedule s, ended.complete c = true) ∨
    ∃ reason t, runIn c schedule workers s = (.error reason, t) ∧
      (∃ ended ∈ phases c schedule s, ended.complete c = false) ∧
      ∀ ended ∈ phases c schedule s, ended.failed = true → Signalled t := by
  have started : lift (now c) s = (.ok _, (now c s).2) := rfl
  rw [runIn, Run.bind_of_ok started]
  simp only [if_neg (Int.not_lt.mpr some)]
  obtain ⟨resources, t, listed, kinds, complete⟩ | ⟨reason, t, stopped, incomplete, signals⟩ :=
    listPhases_cases (c := c) waves schedule.waves [] (now c s).2
  · rw [Run.bind_of_ok listed, phases, listed]
    -- The listing has come to its end here, so a failure lies in the access phase.
    obtain ⟨access, u, collected, unsigned, last⟩ | ⟨reason, u, stopped, incomplete, signals⟩ :=
      interleave_cases (c := c) schedule.access (resources.map Prod.fst)
        (Task.accessOfType c.limit resources) t
    · have stopped : lift (now c) u = (.ok _, (now c u).2) := rfl
      have counted : (get : SyncRun Session) (now c u).2 = (.ok (now c u).2, (now c u).2) := rfl
      rw [Run.bind_of_ok collected, Run.bind_of_ok stopped, Run.bind_of_ok counted]
      obtain ⟨journal, reported⟩ := report_journal _ (now c u).2
      rw [Run.bind_of_ok (lift_of_ok reported)]
      obtain ⟨-, flat, -⟩ := listing_walks listed
      refine .inl ⟨_, _, rfl, unsigned, ?_, ?_⟩
      · rw [List.map_append, kinds, List.map_singleton, kinds_of_outcomes, flat]
      · exact List.forall_mem_append.mpr ⟨complete, by simpa using last⟩
    · rw [Run.bind_of_error stopped]
      refine .inr ⟨reason, u, rfl, ⟨_, List.mem_append_right _ List.mem_cons_self, incomplete⟩, ?_⟩
      refine List.forall_mem_append.mpr ⟨fun ended member failed => ?_, by simpa using signals⟩
      exact absurd failed (Ended.not_failed (complete ended member))
  · rw [Run.bind_of_error stopped, phases, stopped]
    simpa using .inr ⟨reason, t, rfl, incomplete, signals⟩

/-- A sync comes to a document just if there are workers, and in every phase that it comes to all
of them have a result and the signal is not seen in the end.  Then the phases were the waves and the
access to all kinds, the results are those of the whole walk, and the signal is still not given.
If in some phase a worker failed hard, the signal is given.  No phase comes to results that leave a
kind out. -/
theorem runIn_all_or_nothing (c : Connector) (schedule : Schedule) (workers : Int) (s : Session) :
    ((runIn c schedule workers s).1.isOk = true ↔
        1 ≤ workers ∧ ∀ ended ∈ phases c schedule s, ended.complete c = true) ∧
      (∀ d t, runIn c schedule workers s = (.ok d, t) → t.cancelled = false ∧
        (phases c schedule s).map Ended.kinds = waves ++ [waves.flatten] ∧
        ∃ listing collecting, Passes c s (listing ++ collecting) t ∧ Walk d listing collecting) ∧
      (1 ≤ workers → ∀ ended ∈ phases c schedule s, ended.failed = true →
        (runIn c schedule workers s).2.cancelled = true) ∧
      (∀ (α : Type) turns types (task : ResourceType → Task α) u results v,
        interleave c turns types task u = (.ok results, v) → results.map Prod.fst = types) ∧
      (∀ (α : Type) types (work : ResourceType → Act α) u results v,
        parallel c.context types work u = (.ok results, v) → results.map Prod.fst = types) ∧
      runIn c ⟨[], []⟩ workers = run c workers := by
  refine ⟨?_, ?_, ?_, fun _ _ _ _ _ _ _ => interleave_kinds, fun _ _ _ _ _ _ => parallel_kinds,
    runIn_nil c workers⟩
  · by_cases some : 1 ≤ workers
    · obtain ⟨d, t, returns, -, -, complete⟩ | ⟨reason, t, stops, ⟨ended, member, incomplete⟩, -⟩ :=
        runIn_cases (c := c) schedule some s
      · rw [returns]
        exact iff_of_true rfl ⟨some, complete⟩
      · rw [stops]
        refine iff_of_false nofun fun complete => ?_
        rw [complete.2 ended member] at incomplete
        cases incomplete
    · -- Without workers nothing has ended incomplete, and there is no document all the same.
      obtain ⟨reason, t, stops⟩ := runIn_no_workers (c := c) schedule (Int.not_le.mp some) s
      rw [stops]
      exact iff_of_false nofun fun complete => some complete.1
  · intro d t returns
    by_cases some : 1 ≤ workers
    · obtain ⟨_, _, same, unsigned, kinds, -⟩ | ⟨reason, u, stops, -⟩ :=
        runIn_cases (c := c) schedule some s
      · cases returns.symm.trans same
        exact ⟨unsigned, kinds, runIn_walk returns⟩
      · cases returns.symm.trans stops
    · obtain ⟨reason, u, stops⟩ := runIn_no_workers (c := c) schedule (Int.not_le.mp some) s
      cases returns.symm.trans stops
  · intro some ended member failed
    obtain ⟨d, t, -, -, -, complete⟩ | ⟨reason, t, stops, -, signals⟩ :=
      runIn_cases (c := c) schedule some s
    · exact absurd failed (Ended.not_failed (complete ended member))
    · rw [stops]
      exact signals ended member failed

theorem runIn_all_or_nothing_worlds :
    (∃ c d t, Connector.ofConfig storageWorld 5 (.mapping []) true = .ok c ∧
      runIn c mixed 4 Session.new = (.ok d, t) ∧ t.cancelled = false ∧
      ∀ ended ∈ phases c mixed Session.new, ended.complete c = true) ∧
    ∃ c ended, Connector.ofConfig refusals 5 (.mapping []) true = .ok c ∧
      ended ∈ phases c ⟨[], []⟩ Session.new ∧ ended.failed = true ∧
      (runIn c ⟨[], []⟩ 4 Session.new).2.cancelled = true := by
  have succeeds : ((Connector.ofConfig storageWorld 5 (.mapping []) true).toOption.map fun c =>
      (runIn c mixed 4 Session.new).1.isOk) = some true := by
    decide +kernel
  have fails : ((Connector.ofConfig refusals 5 (.mapping []) true).toOption.map fun c =>
      (phases c ⟨[], []⟩ Session.new).any Ended.failed) = some true := by
    decide +kernel
  constructor
  · obtain ⟨c, configured, returned⟩ := Option.map_eq_some_iff.mp succeeds
    obtain ⟨all, documents, -⟩ := runIn_all_or_nothing c mixed 4 Session.new
    have complete := all.mp returned
    cases ended : runIn c mixed 4 Session.new with
    | mk outcome t =>
      cases outcome with
      | ok d =>
        exact ⟨c, d, t, eq_ok_of_toOption configured, ended, (documents d t ended).1, complete.2⟩
      | error stop =>
        rw [ended] at returned
        cases returned
  · obtain ⟨c, configured, failing⟩ := Option.map_eq_some_iff.mp fails
    obtain ⟨ended, member, failed⟩ := List.any_eq_true.mp failing
    obtain ⟨-, -, signals, -⟩ := runIn_all_or_nothing c ⟨[], []⟩ 4 Session.new
    exact ⟨c, ended, eq_ok_of_toOption configured, member, failed,
      signals (by decide) ended member failed⟩

end AccessSync.Sync
