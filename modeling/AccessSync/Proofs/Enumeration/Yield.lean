import AccessSync.Enumeration
import AccessSync.Proofs.Ensures

/-!
# What an enumeration yields

Every item of a step or of a drain comes from translating a page of one of the phases.  So a
property of items that each phase guarantees, from states with an invariant that nothing on the way
breaks, is a property of all items.
-/

namespace AccessSync.Enumeration

variable {σ ι : Type} [Journaled σ]

/-- Neither looking at the signal nor reporting breaks the property of states. -/
structure Stable (P : σ → Prop) (context : Context σ) : Prop where
  check : ∀ s, P s → P (context.isCancelled s).2
  record : ∀ record s, P s → P (Journaled.record record s)

theorem stable_true (context : Context σ) : Stable (fun _ => True) context :=
  ⟨fun _ _ => trivial, fun _ _ _ => trivial⟩

/-- The phase keeps `P`, and its items have `Q`: the records that it fetches have a property that is
enough for that. -/
def Yields (P : σ → Prop) (phase : Phase σ ι) (Q : ι → Prop) : Prop :=
  ∃ F : phase.Record → Prop,
    (∀ token, Ensures P (phase.fetch token) fun page => ∀ record ∈ page.records, F record) ∧
    ∀ records, (∀ record ∈ records, F record) →
      Ensures P (phase.translate records) fun items => ∀ item ∈ items, Q item

variable {P : σ → Prop} {Q : ι → Prop} {paging : Paging} {context : Context σ}
  {phases : List (Phase σ ι)}

omit [Journaled σ] in
theorem Yields.weaken {phase : Phase σ ι} {Q' : ι → Prop} (yields : Yields P phase Q)
    (implies : ∀ item, Q item → Q' item) : Yields P phase Q' := by
  obtain ⟨F, fetch, translate⟩ := yields
  refine ⟨F, fetch, fun records holds => (translate records holds).weaken ?_⟩
  exact fun items each item member => implies item (each item member)

omit [Journaled σ] in
theorem ensures_check (check : ∀ s, P s → P (context.isCancelled s).2) : Keeps P context.check := by
  intro s holds
  rw [Context.check_apply]
  exact ⟨check s holds, fun _ _ => trivial⟩

theorem ensures_fetchPage (stable : Stable P context) {phase : Phase σ ι}
    {F : phase.Record → Prop} (token : Option String)
    (fetch : Ensures P (phase.fetch token) fun page => ∀ record ∈ page.records, F record) :
    Ensures P (fetchPage paging phase token) fun page => ∀ record ∈ page.records, F record := by
  refine fetch.onFailure fun failure => ?_
  split
  next =>
    refine (Ensures.log stable.record _ _ _).bind fun _ _ => Ensures.pure ?_
    simp [Page.empty]
  next => exact Ensures.throw _

theorem ensures_reportProgress (stable : Stable P context) {phase : Phase σ ι}
    (page : Page phase.Record) (left : Cursor) :
    Keeps P (reportProgress paging phase page left) := by
  unfold reportProgress
  split
  next =>
    split
    next =>
      exact (Ensures.log stable.record _ _ _).bind fun _ _ => Ensures.log stable.record _ _ _
    next => exact Ensures.log stable.record _ _ _
  next => exact Ensures.pure trivial

theorem ensures_stepFrom (stable : Stable P context)
    (yields : ∀ phase ∈ phases, Yields P phase Q) (cursor : Cursor) (position : Position) :
    Ensures P (stepFrom paging context phases cursor position) fun result =>
      ∀ item ∈ result.1, Q item := by
  unfold stepFrom
  split
  next phase found =>
    obtain ⟨F, fetch, translate⟩ :=
      yields phase (List.mem_reverse.mp (List.mem_of_find?_eq_some found))
    -- The signal is looked at before the fetch and again between it and the translation.
    have looked := ensures_check stable.check
    have taken : Ensures P (do
        let page ← fetchPage paging phase position.token
        context.check
        return (page, ← phase.translate page.records)) fun result => ∀ item ∈ result.2, Q item :=
      (ensures_fetchPage stable position.token (fetch position.token)).bind fun page records =>
        looked.bind fun _ _ => (translate page.records records).bind fun _ each => Ensures.pure each
    refine looked.bind fun _ _ => (taken.inPhase phase.tag).bind fun result each => ?_
    exact (ensures_reportProgress stable result.1 _).bind fun _ _ => Ensures.pure each
  next => exact Ensures.throw _

theorem ensures_step (stable : Stable P context) (yields : ∀ phase ∈ phases, Yields P phase Q)
    (text : String) :
    Ensures P (step paging context phases text) fun result => ∀ item ∈ result.1, Q item := by
  unfold step
  split
  next => exact Ensures.throw _
  next =>
    simp only
    split
    next => exact Ensures.pure (by simp)
    next => exact ensures_stepFrom stable yields _ _

section Drain

variable {operation : String → Run σ (List ι × String)}
  (each : ∀ text, Ensures P (operation text) fun result => ∀ item ∈ result.1, Q item)

include each

omit [Journaled σ] in
theorem ensures_drainFrom (limit : Nat) (text : String) :
    Ensures P (drainFrom operation limit text) fun items => ∀ item ∈ items, Q item := by
  -- On the limit: a drain that uses it up returns nothing, so nothing is to be shown of it.
  induction limit generalizing text with
  | zero => exact Ensures.throw _
  | succ limit inductionHypothesis =>
    refine (each text).bind fun result here => ?_
    obtain ⟨items, next⟩ := result
    simp only
    split
    next => exact Ensures.pure here
    next =>
      refine (inductionHypothesis next).bind fun others there => Ensures.pure ?_
      exact List.forall_mem_append.mpr ⟨here, there⟩

omit [Journaled σ] in
theorem ensures_drain (limit : Nat) :
    Ensures P (drain limit operation) fun items => ∀ item ∈ items, Q item :=
  ensures_drainFrom each limit ""

end Drain

end AccessSync.Enumeration
