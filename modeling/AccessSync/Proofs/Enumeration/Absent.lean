import AccessSync.Proofs.Enumeration.Agreement

/-!
# Enumerations of what is soon told

A phase may be over after its first page.  A lenient phase is, when its first page is refused
because the object does not exist: then it has no items.  An enumeration of such phases returns the
items of all of them, and one with a phase that stops in another way stops there, however many brief
phases come before it.
-/

namespace AccessSync.Enumeration

variable {σ ι : Type} [Journaled σ] {P : σ → Prop} {paging : Paging} {context : Context σ}
  {phases rest : List (Phase σ ι)} {phase : Phase σ ι}

/-- From states with `P` the phase is over after its first page, and makes the items of it. -/
def Brief (P : σ → Prop) (paging : Paging) (phase : Phase σ ι) (items : List ι) : Prop :=
  ∃ page, Ends P (fetchPage paging phase phase.initialToken) (.ok page) ∧
    continuation? paging phase page = none ∧ Ends P (phase.translate page.records) (.ok items)

/-- From states with `P` the first page of the phase reads as empty, and there is nothing to make of
an empty page. -/
structure Absent (P : σ → Prop) (phase : Phase σ ι) : Prop where
  lenient : phase.notFoundIsEmpty = true
  refused : Fails P (phase.fetch phase.initialToken) fun failure => failure.isNotFound = true
  idle : Ends P (phase.translate []) (.ok [])

/-- From states with `P` the first page of the phase is refused in another way than as one of an
object that does not exist. -/
def Refused (P : σ → Prop) (phase : Phase σ ι) (Q : Failure → Prop) : Prop :=
  Fails P (phase.fetch phase.initialToken) fun failure => failure.isNotFound = false ∧ Q failure

/-! ## One page -/

theorem ends_check (untroubled : Untroubled P context) : Ends P context.check (.ok ()) := by
  intro s holds
  obtain ⟨unsigned, after⟩ := untroubled.look s holds
  rw [Context.check_apply, unsigned]
  exact ⟨rfl, after⟩

theorem ends_fetchPage (untroubled : Untroubled P context) (absent : Absent P phase) :
    Ends P (fetchPage paging phase phase.initialToken) (.ok .empty) := by
  refine absent.refused.handled fun failure notFound => ?_
  simp only [notFound, absent.lenient, Bool.and_self, if_true]
  exact (Ends.log untroubled.record _ _ _).bind (Ends.pure _)

theorem ends_reportProgress (untroubled : Untroubled P context) (page : Page phase.Record)
    (left : Cursor) : Ends P (reportProgress paging phase page left) (.ok ()) := by
  have ending : Ends P (Run.log .debug component
      (paging.label ++ ": phase " ++ phase.tag ++ " drained, " ++ toString left.size ++
        " phase(s) remaining")) (.ok ()) :=
    Ends.log untroubled.record _ _ _
  unfold reportProgress
  split
  next =>
    split
    next => exact (Ends.log untroubled.record _ _ _).bind ending
    next => exact ending
  next => exact Ends.pure ()

omit [Journaled σ] in
theorem continuation?_none {page : Page phase.Record} (last : page.next = none) :
    continuation? paging phase page = none := by
  unfold continuation?
  split
  next => rfl
  next => simp [offered?, last]

theorem Absent.brief (untroubled : Untroubled P context) (absent : Absent P phase) :
    Brief P paging phase [] :=
  ⟨.empty, ends_fetchPage untroubled absent, continuation?_none rfl, absent.idle⟩

theorem Brief.of_lastPage {page : Page phase.Record} {items : List ι}
    (fetched : Ends P (phase.fetch phase.initialToken) (.ok page)) (last : page.next = none)
    (translated : Ends P (phase.translate page.records) (.ok items)) :
    Brief P paging phase items :=
  ⟨page, fetched.onFailure _, continuation?_none last, translated⟩

/-- The step through a brief phase hands out its items and the cursor of the phases after it. -/
theorem ends_step (untroubled : Untroubled P context) (distinct : (phases.map Phase.tag).Nodup)
    (tagged : ∀ phase ∈ phases, phase.tag ≠ "") (listed : ∀ other ∈ phase :: rest, other ∈ phases)
    {items : List ι} (brief : Brief P paging phase items) :
    Ends P (step paging context phases (start (phase :: rest)).encode)
      (.ok (items, (start rest).encode)) := by
  have member := listed phase List.mem_cons_self
  have readable : (start (phase :: rest)).Tagged :=
    tagged_start fun other among => tagged other (listed other among)
  obtain ⟨page, fetched, last, translated⟩ := brief
  have turn : Ends P (do
      let page ← fetchPage paging phase phase.initialToken
      context.check
      return (page, ← phase.translate page.records)) (.ok (page, items)) :=
    fetched.bind ((ends_check untroubled).bind (translated.bind (Ends.pure _)))
  rw [step_encode readable rfl]
  simp only [stepFrom, phase?_of_mem distinct member]
  refine (ends_check untroubled).bind ((turn.onFailure _).bind ?_)
  simp only [last]
  exact (ends_reportProgress untroubled _ _).bind (Ends.pure _)

theorem fails_step (paging : Paging) (untroubled : Untroubled P context)
    (distinct : (phases.map Phase.tag).Nodup)
    (tagged : ∀ phase ∈ phases, phase.tag ≠ "") (listed : ∀ other ∈ phase :: rest, other ∈ phases)
    {Q : Failure → Prop} (refused : Refused P phase Q) :
    Fails P (step paging context phases (start (phase :: rest)).encode) fun failure =>
      ∃ cause, Q cause ∧ failure = cause.inPhase phase.tag := by
  have member := listed phase List.mem_cons_self
  have readable : (start (phase :: rest)).Tagged :=
    tagged_start fun other among => tagged other (listed other among)
  have page : Fails P (fetchPage paging phase phase.initialToken) Q := by
    refine refused.onFailure fun failure raised => ?_
    simp only [raised.1, Bool.false_and, Bool.false_eq_true, if_false]
    exact Fails.raise raised.2
  rw [step_encode readable rfl]
  simp only [stepFrom, phase?_of_mem distinct member]
  refine Fails.after_ends (ends_check untroubled) ?_
  refine Fails.bind ?_ _
  exact (page.bind _).onFailure fun failure raised => Fails.raise ⟨failure, raised, rfl⟩

/-! ## The drain -/

section Drain

variable {before : List (Phase σ ι × List ι)} (untroubled : Untroubled P context)
  (distinct : (phases.map Phase.tag).Nodup) (tagged : ∀ phase ∈ phases, phase.tag ≠ "")
  (brief : ∀ entry ∈ before, Brief P paging entry.1 entry.2)

include untroubled distinct tagged brief

/-- A drain hands out the items of brief phases and goes on to what comes after them. -/
theorem remaining_brief (listed : ∀ phase ∈ before.map Prod.fst ++ rest, phase ∈ phases)
    (limit : Nat) {s : σ} (holds : P s) :
    ∃ t, P t ∧ remaining (step paging context phases) (before.length + limit)
        (start (before.map Prod.fst ++ rest)).encode s =
      (do return before.flatMap Prod.snd ++
        (← remaining (step paging context phases) limit (start rest).encode)) t := by
  -- On the phases that are brief: each takes one step.
  induction before generalizing s with
  | nil => exact ⟨s, holds, by simp⟩
  | cons entry before inductionHypothesis =>
    obtain ⟨phase, items⟩ := entry
    have passes : Ends P
        (step paging context phases (start (phase :: (before.map Prod.fst ++ rest))).encode)
        (.ok (items, (start (before.map Prod.fst ++ rest)).encode)) :=
      ends_step untroubled distinct tagged listed (brief _ List.mem_cons_self)
    obtain ⟨t, steps, after⟩ := passes.returns holds
    obtain ⟨u, reached, same⟩ := inductionHypothesis
      (fun other among => brief other (List.mem_cons_of_mem _ among))
      (fun other among => listed other (List.mem_cons_of_mem phase among)) after
    refine ⟨u, reached, ?_⟩
    have rounds : ((phase, items) :: before).length + limit = (before.length + limit) + 1 := by
      simp only [List.length_cons]
      omega
    rw [remaining, Cursor.isEmpty_encode (by simp [start]), if_neg Bool.false_ne_true, rounds,
      drainFrom_succ, List.map_cons, List.cons_append, Run.bind_of_ok steps]
    dsimp only
    rw [Run.bind_congr same]
    simp

theorem drain_brief (listed : before.map Prod.fst ++ rest = phases) (nonempty : phases ≠ [])
    {limit : Nat} (bound : before.length ≤ limit) (some : 1 ≤ limit) {s : σ} (holds : P s) :
    ∃ t, P t ∧ drain limit (step paging context phases) s =
      (do return before.flatMap Prod.snd ++ (← remaining (step paging context phases)
        (limit - before.length) (start rest).encode)) t := by
  have walked := remaining_brief untroubled distinct tagged brief
    (fun phase among => listed ▸ among) (limit - before.length) holds
  -- The first step has the empty cursor, which stands for the start of all phases.
  obtain ⟨n, rfl⟩ : ∃ n, limit = n + 1 := ⟨limit - 1, by omega⟩
  rw [listed, Nat.add_sub_cancel' bound, remaining,
    Cursor.isEmpty_encode (by simpa [start] using nonempty), if_neg Bool.false_ne_true,
    drainFrom_succ, ← step_empty tagged nonempty] at walked
  rw [drain, drainFrom_succ]
  exact walked

end Drain

/-- An enumeration of brief phases returns the items of all of them. -/
theorem ends_drain_brief {briefs : List (Phase σ ι × List ι)} (untroubled : Untroubled P context)
    (distinct : ((briefs.map Prod.fst).map Phase.tag).Nodup)
    (tagged : ∀ phase ∈ briefs.map Prod.fst, phase.tag ≠ "")
    (brief : ∀ entry ∈ briefs, Brief P paging entry.1 entry.2) (nonempty : briefs ≠ [])
    {limit : Nat} (bound : briefs.length ≤ limit) :
    Ends P (drain limit (step paging context (briefs.map Prod.fst)))
      (.ok (briefs.flatMap Prod.snd)) := by
  intro s holds
  have positive := List.length_pos_iff.mpr nonempty
  obtain ⟨t, after, same⟩ := drain_brief untroubled distinct tagged brief
    (List.append_nil _) (by simpa using nonempty) bound (by omega) holds
  have nothing : remaining (step paging context (briefs.map Prod.fst)) (limit - briefs.length)
      (start ([] : List (Phase σ ι))).encode t = (.ok [], t) := rfl
  rw [same, Run.bind_of_ok nothing]
  exact ⟨by rw [List.append_nil]; rfl, after⟩

omit [Journaled σ] in
theorem map_fst_idle (phases : List (Phase σ ι)) :
    (phases.map fun phase => (phase, ([] : List ι))).map Prod.fst = phases := by
  simp [Function.comp_def]

theorem brief_idle (untroubled : Untroubled P context) (absent : ∀ phase ∈ phases, Absent P phase) :
    ∀ entry ∈ phases.map fun phase => (phase, ([] : List ι)), Brief P paging entry.1 entry.2 := by
  simp only [List.forall_mem_map]
  exact fun phase among => (absent phase among).brief untroubled

/-- An enumeration of nothing but absent phases returns nothing. -/
theorem ends_drain_absent (untroubled : Untroubled P context)
    (distinct : (phases.map Phase.tag).Nodup) (tagged : ∀ phase ∈ phases, phase.tag ≠ "")
    (absent : ∀ phase ∈ phases, Absent P phase) (nonempty : phases ≠ []) {limit : Nat}
    (bound : phases.length ≤ limit) :
    Ends P (drain limit (step paging context phases)) (.ok []) := by
  have drained : Ends P (drain limit (step paging context
      ((phases.map fun phase => (phase, ([] : List ι))).map Prod.fst))) _ :=
    ends_drain_brief untroubled (by rwa [map_fst_idle]) (by rwa [map_fst_idle])
      (brief_idle untroubled absent) (by simpa using nonempty) (by simpa using bound)
  rw [map_fst_idle] at drained
  rwa [List.flatMap_eq_nil_iff.mpr (by simp)] at drained

/-- An enumeration fails as the first of its phases does that is not absent. -/
theorem fails_drain_absent {before : List (Phase σ ι)} (untroubled : Untroubled P context)
    (distinct : ((before ++ phase :: rest).map Phase.tag).Nodup)
    (tagged : ∀ other ∈ before ++ phase :: rest, other.tag ≠ "")
    (absent : ∀ phase ∈ before, Absent P phase) {Q : Failure → Prop} (refused : Refused P phase Q)
    {limit : Nat} (bound : before.length < limit) :
    Fails P (drain limit (step paging context (before ++ phase :: rest))) fun failure =>
      ∃ cause, Q cause ∧ failure = cause.inPhase phase.tag := by
  intro s holds
  obtain ⟨t, after, same⟩ := drain_brief untroubled distinct tagged (brief_idle untroubled absent)
    (congrArg (· ++ phase :: rest) (map_fst_idle before)) (by simp)
    (by simpa using Nat.le_of_lt bound) (by omega) holds
  obtain ⟨n, left⟩ : ∃ n, limit - before.length = n + 1 := ⟨limit - before.length - 1, by omega⟩
  have step := fails_step paging untroubled distinct tagged
    (fun other among => List.mem_append_right before among) refused
  rw [same, List.length_map, left, remaining, Cursor.isEmpty_encode (by simp [start]),
    if_neg Bool.false_ne_true, drainFrom_succ]
  exact (step.bind _).bind _ t after

end AccessSync.Enumeration
