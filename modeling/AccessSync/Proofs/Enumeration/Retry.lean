import AccessSync.Proofs.Enumeration.Drain

/-!
# Retried steps neither lose nor repeat items

A step that stops early hands out no cursor, and its caller goes on with the text that it had.  So
whatever text the caller holds, the items that it still has to get are those of a walk that no
failure has touched (`Pending`), and a step that returns delivers the first of them.

Nothing is assumed of a call that stops: it may have asked for the page already, and it may leave
any state behind.
-/

namespace AccessSync.Enumeration

variable {σ ι : Type} [Journaled σ]

/-! ## Phases that may fail -/

/-- In every state, the phase finds what the upstream holds, or it stops early in a way that is not
taken for an empty page. -/
structure Wavering (phase : Phase σ ι) (upstream : Upstream phase) : Prop where
  fetch : ∀ token s, (phase.fetch token s).1 = upstream.page token ∨
    (∃ stop, (phase.fetch token s).1 = .error stop) ∧ ¬ Absorbed phase (phase.fetch token s).1
  translate : ∀ records s, (phase.translate records s).1 = upstream.items records ∨
    ∃ stop, (phase.translate records s).1 = .error stop

/-- The phase that finds what the upstream holds without fail. -/
def faultless (phase : Phase σ ι) (upstream : Upstream phase) : Phase σ ι :=
  { phase with
    fetch := fun token s => (upstream.page token, s)
    translate := fun records s => (upstream.items records, s) }

/-- The circumstances of one call. -/
structure Attempt (σ : Type) where
  context : Context σ
  state : σ

/-- Calls the step once for each attempt, and repeats a call that stopped early with the same
cursor.  The result is what the calls delivered, and the cursor to go on with unless the last phase
is finished. -/
def retrying (paging : Paging) (phases : List (Phase σ ι)) :
    List (Attempt σ) → String → List ι × Option String
  | [], text => ([], some text)
  | attempt :: attempts, text =>
    match (step paging attempt.context phases text attempt.state).1 with
    | .error _ => retrying paging phases attempts text
    | .ok (items, next) =>
      if next.isEmpty then (items, none)
      else
        let (more, left) := retrying paging phases attempts next
        (items ++ more, left)

variable {paging : Paging} {context : Context σ} {phases : List (Phase σ ι)} {phase : Phase σ ι}
  {upstream : Upstream phase} {token : Option String} {s t : σ}

/-! ## A step that returns -/

theorem eq_of_fetchPage (wavering : Wavering phase upstream) {page found : Page phase.Record}
    (reads : Reads upstream token page)
    (returns : fetchPage paging phase token s = (.ok found, t)) : found = page := by
  have fetched := wavering.fetch token s
  obtain answer | ⟨failure, u, answer, handled⟩ := Run.exists_of_onFailure returns
  · simp only [answer] at fetched
    obtain same | ⟨⟨_, stopped⟩, -⟩ := fetched
    · exact (Reads.found same.symm).unique reads
    · cases stopped
  · simp only [answer] at fetched
    split at handled
    next absorbed =>
      obtain ⟨notFound, lenient⟩ := Bool.and_eq_true_iff.mp absorbed
      obtain same | ⟨-, passed⟩ := fetched
      -- The phase passes off as absent only what the upstream says is absent.
      · obtain ⟨_, _, -, rest⟩ := Run.exists_of_bind handled
        cases rest
        exact (Reads.absent ⟨failure, same.symm, notFound, lenient⟩).unique reads
      · exact absurd ⟨failure, rfl, notFound, lenient⟩ passed
    next => cases handled

theorem eq_of_stepFrom (distinct : (phases.map Phase.tag).Nodup) (member : phase ∈ phases)
    (wavering : Wavering phase upstream) {items delivered : List ι} {continuing : Option String}
    (turn : Turn paging upstream token items continuing) {cursor : Cursor} {id : Option String}
    {next : String} (returns : stepFrom paging context phases cursor ⟨phase.tag, token, id⟩ s =
      (.ok (delivered, next), t)) :
    delivered = items ∧ next = (advance cursor continuing).encode := by
  obtain ⟨page, reads, translated, continues⟩ := turn.continuation
  simp only [stepFrom, phase?_of_mem distinct member] at returns
  -- The looks at the signal and the reports are passed over: they returned, and say nothing more.
  obtain ⟨_, _, -, returns⟩ := Run.exists_of_bind returns
  obtain ⟨⟨found, given⟩, _, inside, returns⟩ := Run.exists_of_bind returns
  obtain ⟨_, _, -, returns⟩ := Run.exists_of_bind returns
  cases returns
  obtain ⟨_, _, fetched, inside⟩ := Run.exists_of_bind (Run.of_inPhase inside)
  obtain ⟨_, _, -, inside⟩ := Run.exists_of_bind inside
  obtain ⟨_, u, translates, inside⟩ := Run.exists_of_bind inside
  cases inside
  obtain rfl := eq_of_fetchPage wavering reads fetched
  refine ⟨?_, by rw [continues]⟩
  have outcome := congrArg Prod.fst translates
  obtain same | ⟨stop, stopped⟩ := wavering.translate found.records _
  · rw [same, translated] at outcome
    exact (Except.ok.inj outcome).symm
  · rw [stopped] at outcome
    cases outcome

/-! ## What a caller still has to get -/

/-- From a cursor text on, there are these items to get. -/
inductive Pending (paging : Paging) (phases : List (Phase σ ι))
    (upstreams : (phase : Phase σ ι) → Upstream phase) (items : Phase σ ι → List ι) :
    String → List ι → Prop where
  | start : Pending paging phases upstreams items "" (phases.flatMap items)
  | within {phase : Phase σ ι} {rest : List (Phase σ ι)} {token : Option String}
      {tokens : List (Option String)} {here : List ι} (member : phase ∈ phases)
      (later : ∀ other ∈ rest, other ∈ phases)
      (chain : Chain paging (upstreams phase) token tokens here) :
      Pending paging phases upstreams items (within phase token rest).encode
        (here ++ rest.flatMap items)

variable {upstreams : (phase : Phase σ ι) → Upstream phase}
  {tokens : Phase σ ι → List (Option String)} {items : Phase σ ι → List ι}

omit [Journaled σ] in
theorem pending_start
    (complete : ∀ phase ∈ phases,
      Chain paging (upstreams phase) phase.initialToken (tokens phase) (items phase))
    {rest : List (Phase σ ι)} (later : ∀ phase ∈ rest, phase ∈ phases) (nonempty : rest ≠ []) :
    Pending paging phases upstreams items (start rest).encode (rest.flatMap items) := by
  obtain ⟨phase, rest, rfl⟩ := List.exists_cons_of_ne_nil nonempty
  have member := later phase List.mem_cons_self
  exact .within member (fun other listed => later other (List.mem_cons_of_mem phase listed))
    (complete phase member)

/-- What is left after a step: nothing, or what the cursor that it hands out stands for. -/
def Left (paging : Paging) (phases : List (Phase σ ι))
    (upstreams : (phase : Phase σ ι) → Upstream phase) (items : Phase σ ι → List ι)
    (next : String) (more : List ι) : Prop :=
  (next.isEmpty = true ∧ more = []) ∨
    (next.isEmpty = false ∧ Pending paging phases upstreams items next more)

omit [Journaled σ] in
theorem left_start
    (complete : ∀ phase ∈ phases,
      Chain paging (upstreams phase) phase.initialToken (tokens phase) (items phase))
    {rest : List (Phase σ ι)} (later : ∀ phase ∈ rest, phase ∈ phases) :
    Left paging phases upstreams items (start rest).encode (rest.flatMap items) := by
  by_cases nonempty : rest = []
  · subst nonempty
    exact .inl ⟨rfl, rfl⟩
  · exact .inr ⟨Cursor.isEmpty_encode (by simpa [start] using nonempty),
      pending_start complete later nonempty⟩

theorem left_of_step_within (distinct : (phases.map Phase.tag).Nodup)
    (tagged : ∀ phase ∈ phases, phase.tag ≠ "")
    (wavering : ∀ phase ∈ phases, Wavering phase (upstreams phase))
    (complete : ∀ phase ∈ phases,
      Chain paging (upstreams phase) phase.initialToken (tokens phase) (items phase))
    (member : phase ∈ phases) {rest : List (Phase σ ι)} (later : ∀ other ∈ rest, other ∈ phases)
    {visits : List (Option String)} {here : List ι}
    (chain : Chain paging (upstreams phase) token visits here) {delivered : List ι} {next : String}
    (returns : step paging context phases (within phase token rest).encode s =
      (.ok (delivered, next), t)) :
    ∃ more, here ++ rest.flatMap items = delivered ++ more ∧
      Left paging phases upstreams items next more := by
  have readable : (within phase token rest).Tagged :=
    tagged_within (tagged phase member) fun other listed => tagged other (later other listed)
  rw [step_encode readable rfl] at returns
  cases chain with
  | last turn =>
    obtain ⟨rfl, rfl⟩ := eq_of_stepFrom distinct member (wavering phase member) turn returns
    exact ⟨_, rfl, left_start complete later⟩
  | next turn chain =>
    obtain ⟨rfl, rfl⟩ := eq_of_stepFrom distinct member (wavering phase member) turn returns
    refine ⟨_, List.append_assoc _ _ _, .inr ⟨?_, .within member later chain⟩⟩
    exact Cursor.isEmpty_encode (List.cons_ne_nil _ _)

/-- A step that returns delivers the first of the pending items. -/
theorem left_of_step (distinct : (phases.map Phase.tag).Nodup)
    (tagged : ∀ phase ∈ phases, phase.tag ≠ "")
    (wavering : ∀ phase ∈ phases, Wavering phase (upstreams phase))
    (complete : ∀ phase ∈ phases,
      Chain paging (upstreams phase) phase.initialToken (tokens phase) (items phase))
    {text : String} {all : List ι} (pending : Pending paging phases upstreams items text all)
    {delivered : List ι} {next : String}
    (returns : step paging context phases text s = (.ok (delivered, next), t)) :
    ∃ more, all = delivered ++ more ∧ Left paging phases upstreams items next more := by
  cases pending with
  | start =>
    cases phases with
    | nil =>
      cases returns
      exact ⟨[], rfl, .inl ⟨rfl, rfl⟩⟩
    | cons phase rest =>
      rw [step_empty tagged (List.cons_ne_nil phase rest)] at returns
      exact left_of_step_within distinct tagged wavering complete List.mem_cons_self
        (fun other listed => List.mem_cons_of_mem phase listed)
        (complete phase List.mem_cons_self) returns
  | within member later chain =>
    exact left_of_step_within distinct tagged wavering complete member later chain returns

/-! ## The run with retries -/

/-- What the calls of a run delivered goes on with what is left after them. -/
theorem pending_retrying (distinct : (phases.map Phase.tag).Nodup)
    (tagged : ∀ phase ∈ phases, phase.tag ≠ "")
    (wavering : ∀ phase ∈ phases, Wavering phase (upstreams phase))
    (complete : ∀ phase ∈ phases,
      Chain paging (upstreams phase) phase.initialToken (tokens phase) (items phase))
    (attempts : List (Attempt σ)) {text : String} {all : List ι}
    (pending : Pending paging phases upstreams items text all) :
    ∃ more, all = (retrying paging phases attempts text).1 ++ more ∧
      match (retrying paging phases attempts text).2 with
      | none => more = []
      | some next => Pending paging phases upstreams items next more := by
  -- A call that fails leaves the text, so the caller holds the same pending items; a call that
  -- returns takes its part off them.
  induction attempts generalizing text all with
  | nil => exact ⟨all, rfl, pending⟩
  | cons attempt attempts inductionHypothesis =>
    match outcome : step paging attempt.context phases text attempt.state with
    | (.error stop, t) =>
      simp only [retrying, outcome]
      exact inductionHypothesis pending
    | (.ok (delivered, next), t) =>
      obtain ⟨more, rfl, ⟨ended, rfl⟩ | ⟨goesOn, left⟩⟩ :=
        left_of_step distinct tagged wavering complete pending outcome
      · simp only [retrying, outcome, ended]
        exact ⟨[], rfl, rfl⟩
      · obtain ⟨rest, rfl, status⟩ := inductionHypothesis left
        simp only [retrying, outcome, goesOn]
        exact ⟨rest, (List.append_assoc _ _ _).symm, status⟩

/-! ## The run without failures

The faultless counterpart of a phase has the same chains and the same cursors. -/

def Upstream.faultless (upstream : Upstream phase) : Upstream (faultless phase upstream) :=
  ⟨upstream.page, upstream.items⟩

omit [Journaled σ] in
theorem steady_faultless (phase : Phase σ ι) (upstream : Upstream phase) :
    Steady (faultless phase upstream) upstream.faultless :=
  ⟨fun _ _ => rfl, fun _ _ => rfl⟩

omit [Journaled σ] in
theorem Reads.faultless {page : Page phase.Record} (reads : Reads upstream token page) :
    Reads upstream.faultless token page := by
  cases reads with
  | found answer => exact .found answer
  | absent answer => exact .absent answer

omit [Journaled σ] in
theorem Turn.faultless {items : List ι} {continuing : Option String}
    (turn : Turn paging upstream token items continuing) :
    Turn paging upstream.faultless token items continuing := by
  cases turn with
  | last reads translated ends => exact .last reads.faultless translated ends
  | next reads translated offers nonempty long =>
    exact .next reads.faultless translated offers nonempty long

omit [Journaled σ] in
theorem Chain.faultless {tokens : List (Option String)} {items : List ι}
    (chain : Chain paging upstream token tokens items) :
    Chain paging upstream.faultless token tokens items := by
  induction chain with
  | last turn => exact .last turn.faultless
  | next turn _ inductionHypothesis => exact .next turn.faultless inductionHypothesis

def faultlessPhases (upstreams : (phase : Phase σ ι) → Upstream phase)
    (phases : List (Phase σ ι)) : List (Phase σ ι) :=
  phases.map fun phase => faultless phase (upstreams phase)

omit [Journaled σ] in
theorem mem_faultlessPhases (member : phase ∈ phases) :
    faultless phase (upstreams phase) ∈ faultlessPhases upstreams phases :=
  List.mem_map.mpr ⟨phase, member, rfl⟩

omit [Journaled σ] in
theorem later_faultlessPhases {rest : List (Phase σ ι)}
    (later : ∀ other ∈ rest, other ∈ phases) :
    ∀ other ∈ faultlessPhases upstreams rest, other ∈ faultlessPhases upstreams phases := by
  intro other listed
  obtain ⟨source, known, rfl⟩ := List.mem_map.mp listed
  exact mem_faultlessPhases (later source known)

omit [Journaled σ] in
theorem distinct_faultlessPhases (distinct : (phases.map Phase.tag).Nodup) :
    ((faultlessPhases upstreams phases).map Phase.tag).Nodup := by
  rw [faultlessPhases, List.map_map]
  exact distinct

omit [Journaled σ] in
theorem tagged_faultlessPhases (tagged : ∀ phase ∈ phases, phase.tag ≠ "") :
    ∀ phase ∈ faultlessPhases upstreams phases, phase.tag ≠ "" := by
  intro phase member
  obtain ⟨phase, listed, rfl⟩ := List.mem_map.mp member
  exact tagged phase listed

omit [Journaled σ] in
theorem start_faultlessPhases : start (faultlessPhases upstreams phases) = start phases := by
  simp [faultlessPhases, faultless, start]

omit [Journaled σ] in
theorem within_faultless {rest : List (Phase σ ι)} :
    within (faultless phase upstream) token (faultlessPhases upstreams rest) =
      within phase token rest := by
  rw [within, start_faultlessPhases]
  rfl

theorem drain_faultless (distinct : (phases.map Phase.tag).Nodup)
    (tagged : ∀ phase ∈ phases, phase.tag ≠ "")
    (complete : ∀ phase ∈ phases,
      Chain paging (upstreams phase) phase.initialToken (tokens phase) (items phase))
    {limit : Nat} (bound : max 1 (phases.flatMap tokens).length ≤ limit) (s : σ) :
    ∃ t, drain limit (step paging Context.never (faultlessPhases upstreams phases)) s =
      (.ok (phases.flatMap items), t) := by
  have current (s : σ) : (Context.never.isCancelled s).1 = false := rfl
  obtain ⟨t, returns, -⟩ := delivers_drain (s := s) (distinct_faultlessPhases distinct)
    (tagged_faultlessPhases tagged) current rfl
    (fun phase _ => steady_faultless phase (upstreams phase))
    (fun phase member => (complete phase member).faultless) bound
  exact ⟨t, returns⟩

theorem drainFrom_faultless (distinct : (phases.map Phase.tag).Nodup)
    (tagged : ∀ phase ∈ phases, phase.tag ≠ "")
    (complete : ∀ phase ∈ phases,
      Chain paging (upstreams phase) phase.initialToken (tokens phase) (items phase))
    {text : String} {all : List ι} (pending : Pending paging phases upstreams items text all)
    (s : σ) :
    ∃ limit t, drainFrom (step paging Context.never (faultlessPhases upstreams phases)) limit text
      s = (.ok all, t) := by
  cases pending with
  | start => exact ⟨_, drain_faultless distinct tagged complete (Nat.le_refl _) s⟩
  | @within phase rest token visits here member later chain =>
    have current (s : σ) : (Context.never.isCancelled s).1 = false := rfl
    have others (limit : Nat) (enough : (rest.flatMap tokens).length ≤ limit) (t : σ) :=
      delivers_chains (s := t) (distinct_faultlessPhases distinct) (tagged_faultlessPhases tagged)
        current (fun other listed => mem_faultlessPhases (later other listed))
        (fun phase _ => steady_faultless phase (upstreams phase))
        (fun other listed => (complete other (later other listed)).faultless) enough
    obtain ⟨t, returns, -⟩ := delivers_chain (s := s) (distinct_faultlessPhases distinct)
      (tagged_faultlessPhases tagged) current (mem_faultlessPhases member)
      (steady_faultless phase (upstreams phase)) (later_faultlessPhases later) chain.faultless others
      (Nat.le_refl _)
    have written : (within (faultless phase (upstreams phase)) token
        (faultlessPhases upstreams rest)).encode.isEmpty = false :=
      Cursor.isEmpty_encode (List.cons_ne_nil _ _)
    rw [remaining, written, if_neg Bool.false_ne_true, within_faultless] at returns
    exact ⟨_, t, returns⟩

/-- Whatever the calls of a run find, and however many of them fail: what they deliver is what a
drain without failures returns, or when the run is not finished, the part of it up to the cursor
that is left. -/
theorem retrying_complete (distinct : (phases.map Phase.tag).Nodup)
    (tagged : ∀ phase ∈ phases, phase.tag ≠ "")
    (wavering : ∀ phase ∈ phases, Wavering phase (upstreams phase))
    (complete : ∀ phase ∈ phases,
      Chain paging (upstreams phase) phase.initialToken (tokens phase) (items phase))
    (attempts : List (Attempt σ)) (s : σ) :
    let untroubled := step paging Context.never (faultlessPhases upstreams phases)
    let retried := retrying paging phases attempts ""
    ∃ limit all t, drain limit untroubled s = (.ok all, t) ∧
      (retried.2 = none → retried.1 = all) ∧
      ∀ text, retried.2 = some text →
        ∃ limit rest t, drainFrom untroubled limit text s = (.ok rest, t) ∧
          retried.1 ++ rest = all := by
  intro untroubled retried
  obtain ⟨t, drained⟩ := drain_faultless distinct tagged complete (Nat.le_refl _) s
  obtain ⟨more, split, status⟩ :=
    pending_retrying distinct tagged wavering complete attempts .start
  refine ⟨_, _, t, drained, fun ended => ?_, fun text left => ?_⟩
  · simp only [retried] at ended ⊢
    simp only [ended] at status
    rw [split, status, List.append_nil]
  · simp only [retried] at left
    simp only [left] at status
    obtain ⟨limit, u, rest⟩ := drainFrom_faultless distinct tagged complete status s
    exact ⟨limit, more, u, rest, split.symm⟩

/-! ## A run over phases that fail -/

/-- The phase with failures in two states: the request is refused in the one, and the records are in
the other. -/
def failing (phase : Phase Register Nat) : Phase Register Nat :=
  { phase with
    fetch := fun token register =>
      if register.visits.length = 1 then (.error .unfinished, register)
      else phase.fetch token register
    translate := fun records register =>
      if register.visits.length = 3 then (.error .unfinished, register)
      else phase.translate records register }

theorem wavering_failing {phase : Phase Register Nat} (steady : Steady phase (atFirst phase)) :
    Wavering (failing phase) (atFirst (failing phase)) where
  fetch token register := by
    by_cases refused : register.visits.length = 1
    · have stopped : ((failing phase).fetch token register).1 = .error .unfinished := by
        simp [failing, refused]
      refine .inr ⟨⟨.unfinished, stopped⟩, ?_⟩
      rintro ⟨failure, same, -⟩
      rw [stopped] at same
      cases same
    · have passed : ((failing phase).fetch token register).1 = (phase.fetch token register).1 := by
        simp [failing, refused]
      exact .inl (passed.trans (steady.fetch token register))
  translate records register := by
    by_cases refused : register.visits.length = 3
    · exact .inr ⟨.unfinished, by simp [failing, refused]⟩
    · have passed : ((failing phase).translate records register).1 =
          (phase.translate records register).1 := by
        simp [failing, refused]
      exact .inl (passed.trans (steady.translate records register))

/-- A phase of two pages and one whose object is missing. -/
def failingPhases : List (Phase Register Nat) := [
  failing (tabled "members" none false true fun
    | none => .ok ⟨[1, 2], some "m2"⟩
    | _ => .ok ⟨[3], none⟩),
  failing (tabled "owners" none true true fun _ => .error missing)]

theorem wavering_failingPhases : ∀ phase ∈ failingPhases, Wavering phase (atFirst phase) := by
  simp only [failingPhases, List.forall_mem_cons]
  exact ⟨wavering_failing ⟨fun _ _ => rfl, fun _ _ => rfl⟩,
    wavering_failing ⟨fun _ _ => rfl, fun _ _ => rfl⟩, by simp⟩

def failingTokens (phase : Phase Register Nat) : List (Option String) :=
  if phase.tag = "members" then [none, some "m2"] else [none]

def failingItems (phase : Phase Register Nat) : List Nat :=
  if phase.tag = "members" then [1, 2, 3] else []

theorem chain_failingPhases : ∀ phase ∈ failingPhases,
    Chain ⟨true, 1, "group"⟩ (atFirst phase) phase.initialToken (failingTokens phase)
      (failingItems phase) := by
  simp only [failingPhases, List.forall_mem_cons]
  refine ⟨?members, ?owners, by simp⟩
  case members =>
    have first : Turn ⟨true, 1, "group"⟩ (atFirst failingPhases[0]) none [1, 2] (some "m2") :=
      .next (.found rfl) rfl rfl (by decide) (by simp [Short, failingPhases, failing, tabled])
    have second : Turn ⟨true, 1, "group"⟩ (atFirst failingPhases[0]) (some "m2") [3] none :=
      .last (.found rfl) rfl (.inl rfl)
    exact .next first (.last second)
  case owners =>
    have absent : Absorbed failingPhases[1] (Except.error missing : Except Stop (Page Nat)) :=
      ⟨_, rfl, rfl, rfl⟩
    exact .last (.last (.absent absent) rfl (.inl rfl))

/-- Calls that are cancelled before and after the request, refused, refused in the records, and
let through. -/
def attempts : List (Attempt Register) := [
  ⟨⟨fun register => (true, register)⟩, ⟨[]⟩⟩,
  ⟨Context.never, ⟨[("", none)]⟩⟩,
  ⟨Context.never, ⟨[]⟩⟩,
  ⟨⟨fun register => (!register.visits.isEmpty, register)⟩, ⟨[]⟩⟩,
  ⟨Context.never, ⟨[("", none), ("", none)]⟩⟩,
  ⟨Context.never, ⟨[]⟩⟩,
  ⟨Context.never, ⟨[("", none)]⟩⟩,
  ⟨Context.never, ⟨[]⟩⟩]

theorem retrying_complete_failingPhases :
    retrying ⟨true, 1, "group"⟩ failingPhases attempts "" = ([1, 2, 3], none) ∧
      ∃ limit t, drain limit
        (step ⟨true, 1, "group"⟩ Context.never (faultlessPhases atFirst failingPhases)) ⟨[]⟩ =
          (.ok [1, 2, 3], t) := by
  have finished : retrying ⟨true, 1, "group"⟩ failingPhases attempts "" = ([1, 2, 3], none) := by
    decide +kernel
  obtain ⟨limit, all, t, drained, whole, -⟩ := retrying_complete (by decide)
    (by simp [failingPhases, failing, tabled]) wavering_failingPhases chain_failingPhases attempts
    ⟨[]⟩
  simp only [finished, forall_const] at whole
  subst whole
  exact ⟨finished, limit, t, drained⟩

end AccessSync.Enumeration
