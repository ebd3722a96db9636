import AccessSync.Proofs.Agreement
import AccessSync.Proofs.Ends
import AccessSync.Proofs.Enumeration.Retry

/-!
# Enumerations that agree

What an enumeration delivers is decided by what its phases fetch and translate.  A twin of a phase
has other runs in place of these: where the runs agree, so do the steps of the two enumerations, and
the drains.  A phase is its own twin, and then related states give its enumeration the same pages.
-/

namespace AccessSync.Enumeration

universe u

variable {σ ι : Type} [Journaled σ]

/-- Looking at the signals and reporting keeps states related, and the signals say the same. -/
structure Attuned (R : σ → σ → Prop) (context other : Context σ) : Prop where
  look : ∀ s t, R s t → (context.isCancelled s).1 = (other.isCancelled t).1 ∧
    R (context.isCancelled s).2 (other.isCancelled t).2
  record : ∀ record s t, R s t → R (Journaled.record record s) (Journaled.record record t)

/-- Other runs to fetch and to translate the pages of a phase. -/
structure Twin (phase : Phase σ ι) where
  fetch : Option String → Run σ (Page phase.Record)
  translate : List phase.Record → Run σ (List ι)

def Twin.phase {phase : Phase σ ι} (twin : Twin phase) : Phase σ ι :=
  { phase with fetch := twin.fetch, translate := twin.translate }

/-- The runs of the phase itself. -/
def itself (phase : Phase σ ι) : Twin phase := ⟨phase.fetch, phase.translate⟩

variable {R : σ → σ → Prop} {paging : Paging} {context other : Context σ} {κ : Type u}
  {phaseOf : κ → Phase σ ι} {twinOf : (k : κ) → Twin (phaseOf k)} {keys : List κ}

/-- One page of a phase and its items. -/
def onePage (paging : Paging) (context : Context σ) (phase : Phase σ ι) (token : Option String) :
    Run σ (Page phase.Record × List ι) := do
  let page ← fetchPage paging phase token
  context.check
  return (page, ← phase.translate page.records)

/-- The phase and its twin read the same pages and make the same items of them. -/
def Matched (R : σ → σ → Prop) (paging : Paging) (context other : Context σ) {phase : Phase σ ι}
    (twin : Twin phase) : Prop :=
  ∀ token, Agree R (onePage paging context phase token) (onePage paging other twin.phase token)

omit [Journaled σ] in
theorem agree_check (attuned : ∀ s t, R s t →
    (context.isCancelled s).1 = (other.isCancelled t).1 ∧
      R (context.isCancelled s).2 (other.isCancelled t).2) :
    Agree R context.check other.check := by
  intro s t related
  obtain ⟨same, after⟩ := attuned s t related
  rw [Context.check_apply, Context.check_apply, same]
  exact ⟨rfl, after⟩

theorem agree_fetchPage (attuned : Attuned R context other) {phase : Phase σ ι}
    {twin : Twin phase} {token : Option String}
    (fetch : Agree R (phase.fetch token) (twin.fetch token)) :
    Agree R (fetchPage paging phase token) (fetchPage paging twin.phase token) := by
  refine Agree.onFailure fetch fun failure => ?_
  by_cases absorbed : (failure.isNotFound && phase.notFoundIsEmpty) = true
  · simp only [Twin.phase, absorbed, if_true]
    exact (Agree.log attuned.record _ _ _).bind fun _ => Agree.pure _
  · simp only [Twin.phase, absorbed, Bool.false_eq_true, if_false]
    exact Agree.throw _

theorem matched_of_agree (attuned : Attuned R context other) {phase : Phase σ ι}
    {twin : Twin phase} (fetch : ∀ token, Agree R (phase.fetch token) (twin.fetch token))
    (translate : ∀ records, Agree R (phase.translate records) (twin.translate records)) :
    Matched R paging context other twin := fun token =>
  (agree_fetchPage attuned (fetch token)).bind fun page =>
    (agree_check attuned.look).bind fun _ =>
      (translate page.records).bind fun items => Agree.pure (page, items)

theorem agree_reportProgress (attuned : Attuned R context other) {phase : Phase σ ι}
    (twin : Twin phase) (page : Page phase.Record) (left : Cursor) :
    Agree R (reportProgress paging phase page left)
      (reportProgress paging twin.phase page left) := by
  have ending : Agrees R (Run.log .debug component
      (paging.label ++ ": phase " ++ phase.tag ++ " drained, " ++ toString left.size ++
        " phase(s) remaining")) :=
    Agree.log attuned.record _ _ _
  -- The twin differs in its runs only, and a report says nothing of them.
  change Agrees R (reportProgress paging phase page left)
  unfold reportProgress
  split
  next =>
    split
    next => exact (Agree.log attuned.record _ _ _).bind fun _ => ending
    next => exact ending
  next => exact Agree.pure ()

omit [Journaled σ] in
theorem phase?_map (tag : String) :
    phase? (keys.map phaseOf) tag =
      (keys.reverse.find? fun k => (phaseOf k).tag == tag).map phaseOf := by
  rw [phase?, ← List.map_reverse, List.find?_map]
  rfl

omit [Journaled σ] in
theorem phase?_twins (tag : String) :
    phase? (keys.map fun k => (twinOf k).phase) tag =
      (keys.reverse.find? fun k => (phaseOf k).tag == tag).map fun k => (twinOf k).phase := by
  rw [phase?_map]
  rfl

theorem agree_stepFrom (attuned : Attuned R context other)
    (matched : ∀ k ∈ keys, Matched R paging context other (twinOf k)) (cursor : Cursor)
    (position : Position) :
    Agree R (stepFrom paging context (keys.map phaseOf) cursor position)
      (stepFrom paging other (keys.map fun k => (twinOf k).phase) cursor position) := by
  unfold stepFrom
  rw [phase?_map, phase?_twins]
  -- A phase and its twin have the tag of one key, so the same key is found for both.
  cases found : keys.reverse.find? fun k => (phaseOf k).tag == position.tag with
  | none => exact Agree.throw _
  | some k =>
    have page := matched k (List.mem_reverse.mp (List.mem_of_find?_eq_some found)) position.token
    simp only [Option.map_some]
    refine (agree_check attuned.look).bind fun _ => ?_
    refine (page.inPhase (phaseOf k).tag).bind fun result => ?_
    exact (agree_reportProgress attuned (twinOf k) result.1 _).bind fun _ => Agree.pure _

omit [Journaled σ] in
theorem start_twins :
    start (keys.map fun k => (twinOf k).phase) = start (keys.map phaseOf) := by
  rw [start, start, List.map_map, List.map_map]
  rfl

theorem agree_step (attuned : Attuned R context other)
    (matched : ∀ k ∈ keys, Matched R paging context other (twinOf k)) (text : String) :
    Agree R (step paging context (keys.map phaseOf) text)
      (step paging other (keys.map fun k => (twinOf k).phase) text) := by
  unfold step
  rw [start_twins]
  split
  next => exact Agree.throw _
  next =>
    simp only
    split
    next => exact Agree.pure _
    next => exact agree_stepFrom attuned matched _ _

omit [Journaled σ] in
theorem agree_drain {operation twin : String → Run σ (List ι × String)}
    (each : ∀ text, Agree R (operation text) (twin text)) (limit : Nat) :
    Agree R (drain limit operation) (drain limit twin) := by
  have onwards (text : String) : Agree R (drainFrom operation limit text)
      (drainFrom twin limit text) := by
    induction limit generalizing text with
    | zero => exact Agree.throw _
    | succ limit inductionHypothesis =>
      refine (each text).bind fun result => ?_
      simp only
      split
      next => exact Agree.pure _
      next => exact (inductionHypothesis result.2).bind fun others => Agree.pure _
  exact onwards ""

/-! ## An enumeration in related states -/

theorem agrees_step {phases : List (Phase σ ι)} (attuned : Attuned R context other)
    (fetch : ∀ phase ∈ phases, ∀ token, Agrees R (phase.fetch token))
    (translate : ∀ phase ∈ phases, ∀ records, Agrees R (phase.translate records))
    (text : String) :
    Agree R (step paging context phases text) (step paging other phases text) := by
  have matched : ∀ phase ∈ phases, Matched R paging context other (itself phase) :=
    fun phase member => matched_of_agree attuned (fetch phase member) (translate phase member)
  -- The phases are their own twins, with themselves as keys.
  have steps : Agree R (step paging context (phases.map fun phase => phase) text)
      (step paging other (phases.map fun phase => (itself phase).phase) text) :=
    agree_step attuned matched text
  have same : phases.map (fun phase => (itself phase).phase) = phases := List.map_id' phases
  rwa [same, List.map_id'] at steps

/-! ## An enumeration whose phases are settled

Phases whose runs have known outcomes are twins of phases that hold the outcomes ready, and those
deliver their chains.
-/

/-- The signal is not given and reports say nothing, as far as `P` goes. -/
structure Untroubled (P : σ → Prop) (context : Context σ) : Prop where
  look : ∀ s, P s → (context.isCancelled s).1 = false ∧ P (context.isCancelled s).2
  record : ∀ record s, P s → P (Journaled.record record s)

/-- The runs that hold ready what there is to find. -/
def ready {phase : Phase σ ι} (upstream : Upstream phase) : Twin phase :=
  ⟨(faultless phase upstream).fetch, (faultless phase upstream).translate⟩

/-- From states with `P` the phase finds what there is to find, page by page.  The states of its
twin are of no account. -/
def Settled (P : σ → Prop) (paging : Paging) (context : Context σ) (phase : Phase σ ι)
    (upstream : Upstream phase) : Prop :=
  Matched (fun s _ => P s) paging context Context.never (ready upstream)

/-- What a phase finds in a state. -/
def seen (phase : Phase σ ι) (s : σ) : Upstream phase :=
  ⟨fun token => (phase.fetch token s).1, fun records => (phase.translate records s).1⟩

/-- A phase, what it finds, and the chain of its pages. -/
structure Course (σ ι : Type) (paging : Paging) where
  phase : Phase σ ι
  upstream : Upstream phase
  tokens : List (Option String)
  items : List ι
  chain : Chain paging upstream phase.initialToken tokens items

section Settled

variable {P : σ → Prop} {phase : Phase σ ι}

theorem attuned_never (untroubled : Untroubled P context) :
    Attuned (fun s _ => P s) context Context.never :=
  ⟨fun s _ holds => untroubled.look s holds, fun record s _ holds => untroubled.record record s holds⟩

theorem settled_seen (untroubled : Untroubled P context) {s : σ} (holds : P s)
    (fetch : ∀ token, Decided P (phase.fetch token))
    (translate : ∀ records, Decided P (phase.translate records)) :
    Settled P paging context phase (seen phase s) :=
  matched_of_agree (attuned_never untroubled)
    (fun token t _ after => (fetch token).ends holds t after)
    fun records t _ after => (translate records).ends holds t after

theorem ends_drain {courses : List (Course σ ι paging)} (untroubled : Untroubled P context)
    (settled : ∀ course ∈ courses, Settled P paging context course.phase course.upstream)
    (distinct : (courses.map fun course => course.phase.tag).Nodup)
    (tagged : ∀ course ∈ courses, course.phase.tag ≠ "") {limit : Nat}
    (bound : max 1 (courses.flatMap Course.tokens).length ≤ limit) :
    Ends P (drain limit (step paging context (courses.map Course.phase)))
      (.ok (courses.flatMap Course.items)) := by
  have tags : ((courses.map fun course =>
      faultless course.phase course.upstream).map Phase.tag).Nodup := by
    rw [List.map_map]
    exact distinct
  have readable : ∀ phase ∈ courses.map fun course => faultless course.phase course.upstream,
      phase.tag ≠ "" := by simpa [faultless] using tagged
  have steady (course : Course σ ι paging) (_ : course ∈ courses) :
      Steady (faultless course.phase course.upstream) course.upstream.faultless :=
    steady_faultless course.phase course.upstream
  have complete (course : Course σ ι paging) (_ : course ∈ courses) :
      Chain paging course.upstream.faultless
        (faultless course.phase course.upstream).initialToken course.tokens course.items :=
    course.chain.faultless
  -- The drain comes to what the twins come to, and those find all pages ready.
  intro s holds
  have never (s : σ) : (Context.never.isCancelled s).1 = false := rfl
  obtain ⟨agreed, after⟩ :=
    agree_drain (agree_step (attuned_never untroubled) settled) limit s s holds
  refine ⟨agreed.trans ?_, after⟩
  obtain ⟨t, returns, -⟩ := delivers_drain (s := s) tags readable never rfl steady complete bound
  exact congrArg Prod.fst returns

end Settled

end AccessSync.Enumeration
