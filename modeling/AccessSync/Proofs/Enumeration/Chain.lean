import AccessSync.Enumeration

/-!
# Token chains

What an enumeration is to deliver, said without cursors: each phase has a chain of pages that starts
at its first token and follows the tokens that the pages offer.  An upstream is a table of what a
phase finds; how a run of the phase relates to the table (it always finds it, or it finds it unless
it fails) is left to the modules that execute the enumeration.
-/

namespace AccessSync.Enumeration

variable {σ ι : Type}

/-- What there is to find for a phase: the page for each token and the items of each page's
records. -/
structure Upstream (phase : Phase σ ι) where
  page : Option String → Except Stop (Page phase.Record)
  items : List phase.Record → Except Stop (List ι)

variable {phase : Phase σ ι}

/-- The outcome is one that the phase takes for an empty page. -/
def Absorbed (phase : Phase σ ι) {ρ : Type} (outcome : Except Stop ρ) : Prop :=
  ∃ failure : Failure, outcome = .error (.fault (.failure failure)) ∧
    failure.isNotFound = true ∧ phase.notFoundIsEmpty = true

/-- The page that the phase reads at a token; an object that does not exist reads as an empty page
where the phase allows it. -/
inductive Reads (upstream : Upstream phase) (token : Option String) : Page phase.Record → Prop where
  | found {page : Page phase.Record} (answer : upstream.page token = .ok page) :
      Reads upstream token page
  | absent (answer : Absorbed phase (upstream.page token)) : Reads upstream token .empty

/-- The page has so few records that the heuristic takes it for the last one. -/
def Short (paging : Paging) (page : Page phase.Record) : Prop :=
  paging.shortPageExit = true ∧ phase.shortPageExit = true ∧
    (page.records.length : Int) ≤ paging.threshold

/-- One page of a chain: its items, and the token to go on with if there is one. -/
inductive Turn (paging : Paging) (upstream : Upstream phase) (token : Option String) :
    List ι → Option String → Prop where
  | last {page : Page phase.Record} {items : List ι} (reads : Reads upstream token page)
      (translated : upstream.items page.records = .ok items)
      (ends : page.next = none ∨ page.next = some "" ∨ Short paging page) :
      Turn paging upstream token items none
  | next {page : Page phase.Record} {items : List ι} {following : String}
      (reads : Reads upstream token page)
      (translated : upstream.items page.records = .ok items)
      (offers : page.next = some following) (nonempty : following ≠ "")
      (long : ¬ Short paging page) :
      Turn paging upstream token items (some following)

/-- A finite chain from a token on: the tokens of its pages and their items. -/
inductive Chain (paging : Paging) (upstream : Upstream phase) :
    Option String → List (Option String) → List ι → Prop where
  | last {token : Option String} {items : List ι} (turn : Turn paging upstream token items none) :
      Chain paging upstream token [token] items
  | next {token : Option String} {following : String} {items more : List ι}
      {tokens : List (Option String)} (turn : Turn paging upstream token items (some following))
      (rest : Chain paging upstream (some following) tokens more) :
      Chain paging upstream token (token :: tokens) (items ++ more)

/-! ## The step's reading of a page -/

theorem endsPhase_iff {paging : Paging} {page : Page phase.Record} :
    endsPhase paging phase page = true ↔ Short paging page := by
  simp [endsPhase, Short, and_assoc]

theorem Turn.continuation {paging : Paging} {upstream : Upstream phase} {token : Option String}
    {items : List ι} {continuing : Option String}
    (turn : Turn paging upstream token items continuing) :
    ∃ page, Reads upstream token page ∧ upstream.items page.records = .ok items ∧
      continuation? paging phase page = continuing := by
  cases turn with
  | @last page items reads translated ends =>
    refine ⟨page, reads, translated, ?_⟩
    obtain absent | empty | short := ends
    · simp [continuation?, offered?, absent]
    · simp [continuation?, offered?, empty]
    · simp [continuation?, endsPhase_iff.mpr short]
  | @next page items following reads translated offers nonempty long =>
    refine ⟨page, reads, translated, ?_⟩
    have goesOn : endsPhase paging phase page = false := by
      rw [Bool.eq_false_iff, ne_eq, endsPhase_iff]
      exact long
    simp [continuation?, goesOn, offered?, offers, nonempty]

/-- A token has one page only. -/
theorem Reads.unique {upstream : Upstream phase} {token : Option String}
    {page other : Page phase.Record} (reads : Reads upstream token page)
    (again : Reads upstream token other) : page = other := by
  cases reads with
  | found answer =>
    cases again with
    | found same =>
      rw [answer] at same
      exact Except.ok.inj same
    | absent failed =>
      obtain ⟨failure, outcome, -⟩ := failed
      simp [answer] at outcome
  | absent failed =>
    cases again with
    | found answer =>
      obtain ⟨failure, outcome, -⟩ := failed
      simp [answer] at outcome
    | absent => rfl

end AccessSync.Enumeration
