import AccessSync.Proofs.Cursor.RoundTrip
import AccessSync.Proofs.Enumeration.Chain
import AccessSync.Proofs.Returns

/-!
# Draining an enumeration walks its chains

`drain` calls a step that knows nothing but a text.  Between two calls, that text is the one of a
stack with the active phase at its current token, and the phases after it at their first ones: the
walk of the chains that is left.  The runs here find what the upstream holds; the state may change
as it likes, and an account of the pages asked for may be kept in it.
-/

namespace AccessSync.Enumeration

universe u

variable {σ ι : Type} [Journaled σ]

/-! ## Phases that find what there is -/

/-- In every state, the phase finds what the upstream holds. -/
structure Steady (phase : Phase σ ι) (upstream : Upstream phase) : Prop where
  fetch : ∀ token s, (phase.fetch token s).1 = upstream.page token
  translate : ∀ records s, (phase.translate records s).1 = upstream.items records

/-- A page that was asked for: the phase and the token. -/
abbrev Visit := String × Option String

/-- A reading of the state as the pages asked for so far. -/
structure Account (context : Context σ) (phases : List (Phase σ ι)) where
  visits : σ → List Visit
  fetch : ∀ phase ∈ phases, ∀ token s,
    visits (phase.fetch token s).2 = visits s ++ [(phase.tag, token)]
  translate : ∀ phase ∈ phases, ∀ records s, visits (phase.translate records s).2 = visits s
  check : ∀ s, visits (context.isCancelled s).2 = visits s
  record : ∀ record s, visits (Journaled.record record s) = visits s

/-- From state `s`, the run returns the value after asking for the given pages. -/
def Delivers {α : Type} (context : Context σ) (phases : List (Phase σ ι)) (run : Run σ α) (s : σ)
    (a : α) (visits : List Visit) : Prop :=
  ∃ t, run s = (.ok a, t) ∧
    ∀ account : Account context phases, account.visits t = account.visits s ++ visits

variable {paging : Paging} {context : Context σ} {phases : List (Phase σ ι)} {phase : Phase σ ι}
  {upstream : Upstream phase} {token : Option String} {s : σ}

theorem Delivers.pure {α : Type} (a : α) : Delivers context phases (pure a) s a [] :=
  ⟨s, rfl, fun _ => (List.append_nil _).symm⟩

theorem Delivers.bind {α β : Type} {first : Run σ α} {next : α → Run σ β} {a : α} {b : β}
    {before after : List Visit} (here : Delivers context phases first s a before)
    (others : ∀ t, Delivers context phases (next a) t b after) :
    Delivers context phases (first >>= next) s b (before ++ after) := by
  obtain ⟨t, returns, counted⟩ := here
  obtain ⟨u, finishes, more⟩ := others t
  refine ⟨u, by rw [Run.bind_of_ok returns, finishes], fun account => ?_⟩
  rw [more, counted, List.append_assoc]

theorem Delivers.silently {α β : Type} {first : Run σ α} {next : α → Run σ β} {a : α} {b : β}
    {visits : List Visit} (here : Delivers context phases first s a [])
    (others : ∀ t, Delivers context phases (next a) t b visits) :
    Delivers context phases (first >>= next) s b visits :=
  here.bind others

theorem Delivers.inPhase {α : Type} {run : Run σ α} {a : α} {visits : List Visit} (tag : String)
    (delivers : Delivers context phases run s a visits) :
    Delivers context phases (Run.inPhase tag run) s a visits := by
  obtain ⟨t, returns, counted⟩ := delivers
  exact ⟨t, Run.onFailure_of_ok returns, counted⟩

theorem delivers_log (severity : Severity) (component message : String) :
    Delivers context phases (Run.log severity component message) s () [] :=
  ⟨_, rfl, fun account => by rw [account.record, List.append_nil]⟩

theorem delivers_check (current : ∀ s, (context.isCancelled s).1 = false) :
    Delivers context phases context.check s () [] :=
  ⟨(context.isCancelled s).2, by simp [Context.check_apply, current s], fun account => by
    rw [account.check, List.append_nil]⟩

theorem delivers_translate (member : phase ∈ phases) (steady : Steady phase upstream)
    {records : List phase.Record} {items : List ι}
    (translated : upstream.items records = .ok items) :
    Delivers context phases (phase.translate records) s items [] := by
  refine ⟨(phase.translate records s).2, ?_, fun account => ?_⟩
  · exact Prod.ext ((steady.translate records s).trans translated) rfl
  · rw [account.translate phase member, List.append_nil]

theorem delivers_fetchPage (member : phase ∈ phases) (steady : Steady phase upstream)
    {page : Page phase.Record} (reads : Reads upstream token page) :
    Delivers context phases (fetchPage paging phase token) s page [(phase.tag, token)] := by
  have answer := steady.fetch token s
  cases reads with
  | found found =>
    refine ⟨(phase.fetch token s).2, ?_, fun account => account.fetch phase member token s⟩
    exact Run.onFailure_of_ok (Prod.ext (answer.trans found) rfl)
  | absent absorbed =>
    obtain ⟨failure, absent, notFound, lenient⟩ := absorbed
    have fails : phase.fetch token s =
        (.error (.fault (.failure failure)), (phase.fetch token s).2) :=
      Prod.ext (answer.trans absent) rfl
    obtain ⟨record, reported⟩ : ∃ record, fetchPage paging phase token s =
        (.ok .empty, Journaled.record record (phase.fetch token s).2) := by
      rw [fetchPage, Run.onFailure_of_failure fails]
      simp only [notFound, lenient, Bool.and_self, if_true]
      exact ⟨_, Run.bind_of_ok (Run.log_apply _ _ _)⟩
    exact ⟨_, reported, fun account => by rw [account.record, account.fetch phase member]⟩

theorem delivers_reportProgress (page : Page phase.Record) (remaining : Cursor) :
    Delivers context phases (reportProgress paging phase page remaining) s () [] := by
  unfold reportProgress
  split
  next =>
    split
    next => exact Delivers.silently (delivers_log _ _ _) fun _ => delivers_log _ _ _
    next => exact delivers_log _ _ _
  next => exact .pure ()

/-! ## A step takes one page -/

omit [Journaled σ] in
theorem find?_tag (distinct : (phases.map Phase.tag).Nodup) (member : phase ∈ phases) :
    phases.find? (·.tag == phase.tag) = some phase := by
  induction phases with
  | nil => cases member
  | cons other phases inductionHypothesis =>
    simp only [List.map_cons, List.nodup_cons] at distinct
    obtain rfl | later := List.mem_cons.mp member
    · simp
    · have different : other.tag ≠ phase.tag := fun same =>
        distinct.1 (same ▸ List.mem_map_of_mem later)
      rw [List.find?_cons_of_neg (by simpa using different)]
      exact inductionHypothesis distinct.2 later

omit [Journaled σ] in
theorem phase?_of_mem (distinct : (phases.map Phase.tag).Nodup) (member : phase ∈ phases) :
    phase? phases phase.tag = some phase := by
  -- The look-up takes the last phase of a tag, which makes no difference to distinct ones.
  have reversed : (phases.reverse.map Phase.tag).Nodup := by
    rw [List.map_reverse]
    exact List.pairwise_reverse.mpr (distinct.imp Ne.symm)
  exact find?_tag reversed (List.mem_reverse.mpr member)

theorem delivers_stepFrom (distinct : (phases.map Phase.tag).Nodup)
    (current : ∀ s, (context.isCancelled s).1 = false) (member : phase ∈ phases)
    (steady : Steady phase upstream) {items : List ι} {continuing : Option String}
    (turn : Turn paging upstream token items continuing) (cursor : Cursor) (id : Option String) :
    Delivers context phases (stepFrom paging context phases cursor ⟨phase.tag, token, id⟩) s
      (items, (advance cursor continuing).encode) [(phase.tag, token)] := by
  obtain ⟨page, reads, translated, continues⟩ := turn.continuation
  have found (t : σ) : Delivers context phases (do
      let page ← fetchPage paging phase token
      context.check
      return (page, ← phase.translate page.records)) t (page, items) [(phase.tag, token)] :=
    (delivers_fetchPage member steady reads).bind fun _ =>
      (delivers_check current).silently fun _ =>
        (delivers_translate member steady translated).silently fun _ => Delivers.pure _
  simp only [stepFrom, phase?_of_mem distinct member]
  refine (delivers_check current).silently fun _ => ?_
  refine ((found _).inPhase phase.tag).bind fun _ => ?_
  rw [continues]
  exact (delivers_reportProgress page _).silently fun _ => Delivers.pure _

/-! ## The walk of the chains

Between two calls the stack holds the active phase at the token that its chain has reached, and
below it the phases that are still to come. -/

/-- The cursor in a phase at a token, with the phases of `rest` to come. -/
def within (phase : Phase σ ι) (token : Option String) (rest : List (Phase σ ι)) : Cursor :=
  (start rest).push ⟨phase.tag, token, none⟩

omit [Journaled σ] in
theorem tagged_start {rest : List (Phase σ ι)} (tagged : ∀ phase ∈ rest, phase.tag ≠ "") :
    (start rest).Tagged := by
  intro position member
  obtain ⟨phase, listed, rfl⟩ := List.mem_map.mp member
  exact tagged phase listed

omit [Journaled σ] in
theorem tagged_within {rest : List (Phase σ ι)} (active : phase.tag ≠ "")
    (tagged : ∀ phase ∈ rest, phase.tag ≠ "") : (within phase token rest).Tagged := by
  have push : (Cursor.Edit.push ⟨phase.tag, token, none⟩).Tagged := active
  exact Cursor.Edit.tagged_apply (tagged_start tagged) push

theorem step_encode {cursor : Cursor} {position : Position} {others : List Position}
    (tagged : cursor.Tagged) (positions : cursor.positions = position :: others) :
    step paging context phases cursor.encode = stepFrom paging context phases cursor position := by
  have notEmpty : cursor.isEmpty = false := by simp [Cursor.isEmpty, positions]
  have active : cursor.active? = some position := by simp [Cursor.active?, positions]
  simp [step, Cursor.decode_encode tagged, notEmpty, active]

theorem step_empty (tagged : ∀ phase ∈ phases, phase.tag ≠ "") (nonempty : phases ≠ []) :
    step paging context phases "" = step paging context phases (start phases).encode := by
  obtain ⟨phase, rest, rfl⟩ := List.exists_cons_of_ne_nil nonempty
  rw [step_encode (tagged_start tagged) rfl]
  rfl

theorem delivers_step {rest : List (Phase σ ι)} (distinct : (phases.map Phase.tag).Nodup)
    (tagged : ∀ phase ∈ phases, phase.tag ≠ "") (later : ∀ other ∈ rest, other ∈ phases)
    (current : ∀ s, (context.isCancelled s).1 = false) (member : phase ∈ phases)
    (steady : Steady phase upstream) {items : List ι} {continuing : Option String}
    (turn : Turn paging upstream token items continuing) :
    Delivers context phases (step paging context phases (within phase token rest).encode) s
      (items, (advance (within phase token rest) continuing).encode) [(phase.tag, token)] := by
  have readable : (within phase token rest).Tagged :=
    tagged_within (tagged phase member) fun other listed => tagged other (later other listed)
  rw [step_encode readable rfl]
  exact delivers_stepFrom distinct current member steady turn _ none

/-! ## The run -/

/-- The items from a cursor text on, none from the empty one. -/
def remaining (operation : String → Run σ (List ι × String)) (limit : Nat) (text : String) :
    Run σ (List ι) :=
  if text.isEmpty then pure [] else drainFrom operation limit text

omit [Journaled σ] in
theorem drainFrom_succ (operation : String → Run σ (List ι × String)) (limit : Nat)
    (text : String) :
    drainFrom operation (limit + 1) text = do
      let (items, next) ← operation text
      return items ++ (← remaining operation limit next) := by
  rw [drainFrom]
  congr 1
  funext page
  obtain ⟨items, next⟩ := page
  by_cases last : next.isEmpty = true
  · simp [remaining, last]
  · simp [remaining, last]

theorem delivers_remaining_of_step {operation : String → Run σ (List ι × String)} {limit : Nat}
    {text next : String} {items more : List ι} {before after : List Visit}
    (nonempty : text.isEmpty = false)
    (here : Delivers context phases (operation text) s (items, next) before)
    (others : ∀ t, Delivers context phases (remaining operation limit next) t more after) :
    Delivers context phases (remaining operation (limit + 1) text) s (items ++ more)
      (before ++ after) := by
  rw [remaining, nonempty, if_neg Bool.false_ne_true, drainFrom_succ]
  refine here.bind fun t => ?_
  rw [← List.append_nil after]
  exact (others t).bind fun _ => Delivers.pure _

/-- The rest of a chain and what comes after it. -/
theorem delivers_chain (distinct : (phases.map Phase.tag).Nodup)
    (tagged : ∀ phase ∈ phases, phase.tag ≠ "")
    (current : ∀ s, (context.isCancelled s).1 = false) (member : phase ∈ phases)
    (steady : Steady phase upstream) {rest : List (Phase σ ι)}
    (later : ∀ other ∈ rest, other ∈ phases) {tokens : List (Option String)} {items : List ι}
    (chain : Chain paging upstream token tokens items) {enough : Nat} {more : List ι}
    {visits : List Visit}
    (others : ∀ limit, enough ≤ limit → ∀ t, Delivers context phases
      (remaining (step paging context phases) limit (start rest).encode) t more visits)
    {limit : Nat} (bound : tokens.length + enough ≤ limit) :
    Delivers context phases
      (remaining (step paging context phases) limit (within phase token rest).encode) s
      (items ++ more) (tokens.map (phase.tag, ·) ++ visits) := by
  -- On the chain, whose pages each take one round off the limit.  The last page pops the phase, and
  -- what `others` says of the phases below it takes over.
  induction chain generalizing limit s with
  | @last token items turn =>
    simp only [List.length_singleton] at bound
    obtain ⟨limit, rfl⟩ : ∃ n, limit = n + 1 := ⟨limit - 1, by omega⟩
    refine delivers_remaining_of_step (Cursor.isEmpty_encode (by simp [within, Cursor.push]))
      (delivers_step distinct tagged later current member steady turn) fun t => ?_
    exact others limit (by omega) t
  | @next token following items moreItems tokens turn chain inductionHypothesis =>
    simp only [List.length_cons] at bound
    obtain ⟨limit, rfl⟩ : ∃ n, limit = n + 1 := ⟨limit - 1, by omega⟩
    rw [List.append_assoc, List.map_cons, List.cons_append]
    refine delivers_remaining_of_step (Cursor.isEmpty_encode (by simp [within, Cursor.push]))
      (delivers_step distinct tagged later current member steady turn) fun t => ?_
    exact inductionHypothesis (by omega)

/-! The phases of an enumeration are named by the keys of a list, so that what is known of each of
them can be a function of the key. -/

variable {κ : Type u} {phaseOf : κ → Phase σ ι} {upstreamOf : (k : κ) → Upstream (phaseOf k)}
  {tokens : κ → List (Option String)} {items : κ → List ι}

/-- The chains of the phases still to come. -/
theorem delivers_chains (distinct : (phases.map Phase.tag).Nodup)
    (tagged : ∀ phase ∈ phases, phase.tag ≠ "")
    (current : ∀ s, (context.isCancelled s).1 = false) {keys : List κ}
    (later : ∀ k ∈ keys, phaseOf k ∈ phases)
    (steady : ∀ k ∈ keys, Steady (phaseOf k) (upstreamOf k))
    (complete : ∀ k ∈ keys,
      Chain paging (upstreamOf k) (phaseOf k).initialToken (tokens k) (items k)) {limit : Nat}
    (bound : (keys.flatMap tokens).length ≤ limit) :
    Delivers context phases
      (remaining (step paging context phases) limit (start (keys.map phaseOf)).encode) s
      (keys.flatMap items) (keys.flatMap fun k => (tokens k).map ((phaseOf k).tag, ·)) := by
  -- On the keys: `start` has put the first of them on top of the stack and the others below it.
  induction keys generalizing limit s with
  | nil => exact Delivers.pure []
  | cons k keys inductionHypothesis =>
    have others : ∀ other ∈ keys.map phaseOf, other ∈ phases := by
      intro other listed
      obtain ⟨key, member, rfl⟩ := List.mem_map.mp listed
      exact later key (List.mem_cons_of_mem k member)
    simp only [List.flatMap_cons, List.length_append] at bound ⊢
    refine delivers_chain distinct tagged current (later k List.mem_cons_self)
      (steady k List.mem_cons_self) others (complete k List.mem_cons_self)
      (fun limit enough t => ?_) bound
    exact inductionHypothesis (fun key member => later key (List.mem_cons_of_mem k member))
      (fun key member => steady key (List.mem_cons_of_mem k member))
      (fun key member => complete key (List.mem_cons_of_mem k member)) enough

theorem delivers_drain (distinct : (phases.map Phase.tag).Nodup)
    (tagged : ∀ phase ∈ phases, phase.tag ≠ "")
    (current : ∀ s, (context.isCancelled s).1 = false) {keys : List κ}
    (listed : keys.map phaseOf = phases)
    (steady : ∀ k ∈ keys, Steady (phaseOf k) (upstreamOf k))
    (complete : ∀ k ∈ keys,
      Chain paging (upstreamOf k) (phaseOf k).initialToken (tokens k) (items k)) {limit : Nat}
    (bound : max 1 (keys.flatMap tokens).length ≤ limit) :
    Delivers context phases (drain limit (step paging context phases)) s
      (keys.flatMap items) (keys.flatMap fun k => (tokens k).map ((phaseOf k).tag, ·)) := by
  subst listed
  obtain ⟨limit, rfl⟩ : ∃ n, limit = n + 1 := ⟨limit - 1, by omega⟩
  by_cases nonempty : keys.map phaseOf = []
  · obtain rfl := List.map_eq_nil_iff.mp nonempty
    exact Delivers.pure []
  · have walked := delivers_chains (s := s) distinct tagged current
      (fun k member => List.mem_map_of_mem member) steady complete
      (Nat.le_trans (Nat.le_max_right 1 _) bound)
    rw [remaining, Cursor.isEmpty_encode (by simpa [start] using nonempty),
      if_neg Bool.false_ne_true, drainFrom_succ, ← step_empty tagged nonempty] at walked
    rw [drain, drainFrom_succ]
    exact walked

/-- A drain returns the items of the chains in the order of the phases, and asks for the pages of
the chains only, for each once and in the same order. -/
theorem drain_chains {upstreams : (phase : Phase σ ι) → Upstream phase}
    {tokens : Phase σ ι → List (Option String)} {items : Phase σ ι → List ι}
    (distinct : (phases.map Phase.tag).Nodup) (tagged : ∀ phase ∈ phases, phase.tag ≠ "")
    (current : ∀ s, (context.isCancelled s).1 = false)
    (steady : ∀ phase ∈ phases, Steady phase (upstreams phase))
    (complete : ∀ phase ∈ phases,
      Chain paging (upstreams phase) phase.initialToken (tokens phase) (items phase))
    {limit : Nat} (bound : max 1 (phases.flatMap tokens).length ≤ limit) (s : σ) :
    ∃ t, drain limit (step paging context phases) s = (.ok (phases.flatMap items), t) ∧
      ∀ account : Account context phases, account.visits t =
        account.visits s ++ phases.flatMap fun phase => (tokens phase).map (phase.tag, ·) :=
  delivers_drain distinct tagged current (List.map_id phases) steady complete bound

/-! ## An enumeration over tables -/

/-- A state that notes the pages asked for. -/
structure Register where
  visits : List Visit

instance : Journaled Register := ⟨fun _ register => register⟩

/-- A phase that finds its pages in a table. -/
def tabled (tag : String) (initialToken : Option String) (notFoundIsEmpty shortPageExit : Bool)
    (table : Option String → Except Stop (Page Nat)) : Phase Register Nat where
  tag
  Record := Nat
  fetch token register := (table token, ⟨register.visits ++ [(tag, token)]⟩)
  translate records register := (.ok records, register)
  initialToken
  notFoundIsEmpty
  shortPageExit

def missing : Stop := .fault (.failure ⟨.request ⟨.notFound, "gone", none, none⟩, none⟩)

/-- Three phases: one whose second page is short, one whose object is missing, and one that reads
short pages on until a token is empty. -/
def tabledPhases : List (Phase Register Nat) := [
  tabled "members" none false true fun
    | none => .ok ⟨[1, 2], some "m2"⟩
    | some "m2" => .ok ⟨[3], some "m3"⟩
    | _ => .error missing,
  tabled "owners" (some "o1") true true fun _ => .error missing,
  tabled "guests" none false false fun
    | none => .ok ⟨[4], some "g2"⟩
    | some "g2" => .ok ⟨[], some "g3"⟩
    | _ => .ok ⟨[5], some ""⟩]

/-- What a phase finds before anything was asked. -/
def atFirst (phase : Phase Register Nat) : Upstream phase where
  page token := (phase.fetch token ⟨[]⟩).1
  items records := (phase.translate records ⟨[]⟩).1

theorem steady_tabledPhases : ∀ phase ∈ tabledPhases, Steady phase (atFirst phase) := by
  simp only [tabledPhases, List.forall_mem_cons]
  exact ⟨⟨fun _ _ => rfl, fun _ _ => rfl⟩, ⟨fun _ _ => rfl, fun _ _ => rfl⟩,
    ⟨fun _ _ => rfl, fun _ _ => rfl⟩, by simp⟩

/-- The register is an account of the pages that the phases asked for. -/
def registered (context : Context Register) (idle : ∀ s, (context.isCancelled s).2 = s) :
    Account context tabledPhases where
  visits := Register.visits
  fetch := by
    simp only [tabledPhases, List.forall_mem_cons]
    exact ⟨fun _ _ => rfl, fun _ _ => rfl, fun _ _ => rfl, by simp⟩
  translate := by
    simp only [tabledPhases, List.forall_mem_cons]
    exact ⟨fun _ _ => rfl, fun _ _ => rfl, fun _ _ => rfl, by simp⟩
  check s := by rw [idle]
  record _ _ := rfl

def tabledTokens (phase : Phase Register Nat) : List (Option String) :=
  match phase.tag with
  | "members" => [none, some "m2"]
  | "owners" => [some "o1"]
  | _ => [none, some "g2", some "g3"]

def tabledItems (phase : Phase Register Nat) : List Nat :=
  match phase.tag with
  | "members" => [1, 2, 3]
  | "owners" => []
  | _ => [4, 5]

theorem chain_tabledPhases : ∀ phase ∈ tabledPhases,
    Chain ⟨true, 1, "group"⟩ (atFirst phase) phase.initialToken (tabledTokens phase)
      (tabledItems phase) := by
  simp only [tabledPhases, List.forall_mem_cons]
  refine ⟨?members, ?owners, ?guests, by simp⟩
  case members =>
    have first : Turn ⟨true, 1, "group"⟩ (atFirst tabledPhases[0]) none [1, 2] (some "m2") :=
      .next (.found rfl) rfl rfl (by decide) (by simp [Short, tabledPhases, tabled])
    have short : Turn ⟨true, 1, "group"⟩ (atFirst tabledPhases[0]) (some "m2") [3] none :=
      .last (.found rfl) rfl (.inr (.inr ⟨rfl, rfl, by decide⟩))
    exact .next first (.last short)
  case owners =>
    have absent : Absorbed tabledPhases[1] (Except.error missing : Except Stop (Page Nat)) :=
      ⟨_, rfl, rfl, rfl⟩
    exact .last (.last (.absent absent) rfl (.inl rfl))
  case guests =>
    have first : Turn ⟨true, 1, "group"⟩ (atFirst tabledPhases[2]) none [4] (some "g2") :=
      .next (.found rfl) rfl rfl (by decide) (by simp [Short, tabledPhases, tabled])
    have second : Turn ⟨true, 1, "group"⟩ (atFirst tabledPhases[2]) (some "g2") [] (some "g3") :=
      .next (.found rfl) rfl rfl (by decide) (by simp [Short, tabledPhases, tabled])
    have empty : Turn ⟨true, 1, "group"⟩ (atFirst tabledPhases[2]) (some "g3") [5] none :=
      .last (.found rfl) rfl (.inr (.inl rfl))
    exact .next first (.next second (.last empty))

theorem drain_chains_tabledPhases :
    ∃ t, drain 6 (step ⟨true, 1, "group"⟩ Context.never tabledPhases) ⟨[]⟩ =
        (.ok [1, 2, 3, 4, 5], t) ∧
      t.visits = [("members", none), ("members", some "m2"), ("owners", some "o1"),
        ("guests", none), ("guests", some "g2"), ("guests", some "g3")] := by
  have drained : ∃ t, drain 6 (step ⟨true, 1, "group"⟩ Context.never tabledPhases) ⟨[]⟩ =
      (.ok (tabledPhases.flatMap tabledItems), t) ∧
      ∀ account : Account Context.never tabledPhases, account.visits t =
        account.visits ⟨[]⟩ ++
          tabledPhases.flatMap fun phase => (tabledTokens phase).map (phase.tag, ·) :=
    drain_chains (by decide) (by simp [tabledPhases, tabled]) (fun _ => rfl) steady_tabledPhases
      chain_tabledPhases (by decide) ⟨[]⟩
  obtain ⟨t, returns, counted⟩ := drained
  exact ⟨t, returns, counted (registered Context.never fun _ => rfl)⟩

end AccessSync.Enumeration
