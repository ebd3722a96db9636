import AccessSync.Proofs.Enumeration.Conclusion
import AccessSync.Proofs.Enumeration.Offset

/-!
# Pages of any size

A phase over a list in memory loads its list for every page and takes a piece out of it.  If the
list, once loaded, is handed out without further ado, and translating a list is translating its
pieces one after the other, then the pages together do what a single page would: it makes no
difference where the list is cut.
-/

namespace AccessSync

/-! ## Runs in pieces -/

/-- A stop as one of the phase `tag`, if it is a failure that has no phase. -/
def Stop.inPhase (tag : String) : Stop → Stop
  | .fault (.failure failure) => .fault (.failure (failure.inPhase tag))
  | stop => stop

namespace Run

variable {σ α β : Type} {s t : σ} {first : Run σ α}

theorem inPhase_of_ok {a : α} (tag : String) (returns : first s = (.ok a, t)) :
    inPhase tag first s = (.ok a, t) :=
  onFailure_of_ok returns

theorem inPhase_of_error {stop : Stop} (tag : String) (stops : first s = (.error stop, t)) :
    inPhase tag first s = (.error (stop.inPhase tag), t) := by
  rw [inPhase, onFailure, tryCatch_of_error stops]
  cases stop with
  | fault fault => cases fault <;> rfl
  | unfinished => rfl

theorem bind_pure_apply (first : Run σ α) (f : α → β) (s : σ) :
    (first >>= fun a => pure (f a)) s = ((first s).1.map f, (first s).2) := by
  match here : first s with
  | (.error stop, t) =>
    rw [bind_of_error here]
    rfl
  | (.ok a, t) =>
    rw [bind_of_ok here]
    rfl

theorem inPhase_bind (tag : String) (first : Run σ α) (next : α → Run σ β) :
    inPhase tag (first >>= next) = inPhase tag first >>= fun a => inPhase tag (next a) := by
  funext s
  match here : first s with
  | (.error stop, t) =>
    rw [inPhase_of_error tag (bind_of_error here), bind_of_error (inPhase_of_error tag here)]
  | (.ok a, t) =>
    rw [bind_of_ok (inPhase_of_ok tag here)]
    match there : next a t with
    | (.error stop, u) =>
      rw [inPhase_of_error tag ((bind_of_ok here).trans there), inPhase_of_error tag there]
    | (.ok b, u) => rw [inPhase_of_ok tag ((bind_of_ok here).trans there), inPhase_of_ok tag there]

theorem filterMap_append {f : α → Run σ (Option β)} (list more : List α) :
    filterMap f (list ++ more) = do
      let found ← filterMap f list
      let others ← filterMap f more
      return found ++ others := by
  induction list with
  | nil => simp [filterMap]
  | cons a list inductionHypothesis =>
    simp only [List.cons_append, filterMap, inductionHypothesis, bind_assoc, pure_bind]
    congr 1
    funext found
    cases found with
    | none => simp
    | some b => simp

end Run

namespace Enumeration

open Connector (markerPhase pageAt range offsetOf? offsetOf?_toString delivered)

/-! ## Enumerations that end with a list -/

/-- An enumeration whose last phase is one over a list in memory. -/
structure ListedLast (ι : Type) where
  paging : Paging
  /-- The phases before the last one. -/
  before : List (Phase Session ι)
  tag : String
  Record : Type
  load : Act (List Record)
  translate : List Record → Act (List ι)

namespace ListedLast

variable {ι : Type} (e : ListedLast ι)

def phases (size : Nat) : List (Phase Session ι) :=
  e.before ++ [markerPhase e.tag size e.load e.translate]

def operation (size : Nat) (text : String) : Act (List ι × String) :=
  step e.paging Context.never (e.phases size) text

/-- The list is what it is once it is loaded, and may be translated in pieces. -/
structure Divisible : Prop where
  tagged : e.tag ≠ ""
  others : ∀ phase ∈ e.before, phase.tag ≠ "" ∧ phase.tag ≠ e.tag
  loaded : ∀ s records t, e.load s = (.ok records, t) → e.load t = (.ok records, t)
  keeps : ∀ records some, Keeps (fun t => e.load t = (.ok records, t)) (e.translate some)
  append : ∀ records more, e.translate (records ++ more) = do
    let items ← e.translate records
    let others ← e.translate more
    return items ++ others

/-- It is enough that the list is read off something that is kept. -/
theorem Divisible.of_kept {κ : Type} {P : κ → Session → Prop} (tagged : e.tag ≠ "")
    (others : ∀ phase ∈ e.before, phase.tag ≠ "" ∧ phase.tag ≠ e.tag)
    (loads : ∀ s records t, e.load s = (.ok records, t) →
      ∃ kept, P kept t ∧ ∀ u, P kept u → e.load u = (.ok records, u))
    (keeps : ∀ kept records, Keeps (P kept) (e.translate records))
    (append : ∀ records more, e.translate (records ++ more) = do
      let items ← e.translate records
      let others ← e.translate more
      return items ++ others) : e.Divisible where
  tagged := tagged
  others := others
  loaded s records t loaded := by
    obtain ⟨kept, holds, again⟩ := loads s records t loaded
    exact again t holds
  keeps records some s loaded := by
    obtain ⟨kept, holds, again⟩ := loads s records s loaded
    exact ⟨again _ (keeps kept some s holds).1, fun _ _ => trivial⟩
  append := append

end ListedLast

/-! ## A step, once its page is fetched -/

section Step

variable {σ ι : Type} [Journaled σ] {paging : Paging} {phases : List (Phase σ ι)}
  {phase : Phase σ ι} {cursor : Cursor} {position : Position} {s t : σ}

omit [Journaled σ] in
theorem check_never (s : σ) : Context.never.check s = (.ok (), s) := by
  rw [Context.check_apply]
  rfl

theorem stepFrom_of_fetchPage (found : phase? phases position.tag = some phase)
    {page : Page phase.Record}
    (fetched : fetchPage paging phase position.token s = (.ok page, t)) :
    stepFrom paging Context.never phases cursor position s = (do
      let items ← Run.inPhase phase.tag (phase.translate page.records)
      let remaining := advance cursor (continuation? paging phase page)
      reportProgress paging phase page remaining
      return (items, remaining.encode)) t := by
  simp only [stepFrom, found]
  rw [Run.bind_of_ok (check_never s)]
  have translated : Run.inPhase phase.tag (do
        let page ← fetchPage paging phase position.token
        Context.never.check
        return (page, ← phase.translate page.records)) s =
      (do return (page, ← Run.inPhase phase.tag (phase.translate page.records))) t := by
    rw [Run.inPhase_bind, Run.bind_of_ok (Run.inPhase_of_ok _ fetched), Run.inPhase_bind,
      Run.bind_of_ok (Run.inPhase_of_ok _ (check_never t)), Run.inPhase_bind]
    rfl
  obtain ⟨outcome, u, items⟩ : ∃ outcome u,
      Run.inPhase phase.tag (phase.translate page.records) t = (outcome, u) := ⟨_, _, rfl⟩
  cases outcome with
  | error stop =>
    rw [Run.bind_of_error items, Run.bind_of_error (translated.trans (Run.bind_of_error items))]
  | ok items' =>
    rw [Run.bind_of_ok items, Run.bind_of_ok (translated.trans (Run.bind_of_ok items))]

theorem stepFrom_of_fetchPage_error (found : phase? phases position.tag = some phase) {stop : Stop}
    (failed : fetchPage paging phase position.token s = (.error stop, t)) :
    stepFrom paging Context.never phases cursor position s =
      (.error (stop.inPhase phase.tag), t) := by
  simp only [stepFrom, found]
  rw [Run.bind_of_ok (check_never s)]
  exact Run.bind_of_error (Run.inPhase_of_error _ (Run.bind_of_error failed))

/-- A step that returns goes on with the phase or without it. -/
theorem exists_of_stepFrom {context : Context σ} {items : List ι} {following : String}
    (returns : stepFrom paging context phases cursor position s = (.ok (items, following), t)) :
    ∃ token, following = (advance cursor token).encode := by
  cases found : phase? phases position.tag with
  | none =>
    simp only [stepFrom, found] at returns
    cases returns
  | some phase =>
    simp only [stepFrom, found] at returns
    obtain ⟨_, _, -, returns⟩ := Run.exists_of_bind returns
    obtain ⟨page, _, -, returns⟩ := Run.exists_of_bind returns
    obtain ⟨_, _, -, returns⟩ := Run.exists_of_bind returns
    cases returns
    exact ⟨_, rfl⟩

end Step

namespace ListedLast

variable {ι : Type} (e : ListedLast ι) {s t : Session} {size : Nat} {token : Option String}

/-! ## The last phase -/

/-- The cursor within the last phase. -/
def within (token : Option String) : Cursor := ⟨[⟨e.tag, token, none⟩]⟩

/-- The last phase in one piece, from its records on. -/
def whole (records : List e.Record) : Act (List ι) := do
  let items ← Run.inPhase e.tag (e.translate records)
  Run.log .debug component
    (e.paging.label ++ ": phase " ++ e.tag ++ " drained, " ++ toString 0 ++ " phase(s) remaining")
  return items

theorem phase?_last : phase? (e.phases size) e.tag =
    some (markerPhase e.tag size e.load e.translate) := by
  simp [phase?, phases, markerPhase]

theorem continuation?_last (page : Page e.Record) :
    continuation? e.paging (markerPhase e.tag size e.load e.translate) page = offered? page := by
  have long := Connector.not_short_markerPhase e.paging page e.tag size e.load e.translate
  unfold continuation?
  rw [if_neg fun ends => long (endsPhase_iff.mp ends)]
  rfl

/-- A page that offers no token ends the enumeration. -/
theorem stepFrom_last {page : Page e.Record} (last : page.next = none)
    (fetched : fetchPage e.paging (markerPhase e.tag size e.load e.translate) token s =
      (.ok page, t)) :
    stepFrom e.paging Context.never (e.phases size) (e.within token) ⟨e.tag, token, none⟩ s = (do
      let items ← e.whole page.records
      return (items, "")) t := by
  have ends : continuation? e.paging (markerPhase e.tag size e.load e.translate) page = none := by
    rw [continuation?_last, offered?, last]
    rfl
  rw [stepFrom_of_fetchPage e.phase?_last fetched]
  simp only [reportProgress, ends, offered?, last, whole, bind_assoc, pure_bind, Option.isNone_none,
    Option.filter_none, Option.isSome_none, Bool.false_eq_true, if_true, if_false]
  rfl

/-- A page that offers a token is followed by the page at the token. -/
theorem stepFrom_next {page : Page e.Record} {following : String}
    (next : page.next = some following) (nonempty : following ≠ "")
    (fetched : fetchPage e.paging (markerPhase e.tag size e.load e.translate) token s =
      (.ok page, t)) :
    stepFrom e.paging Context.never (e.phases size) (e.within token) ⟨e.tag, token, none⟩ s = (do
      let items ← Run.inPhase e.tag (e.translate page.records)
      return (items, (e.within (some following)).encode)) t := by
  have goes : continuation? e.paging (markerPhase e.tag size e.load e.translate) page =
      some following := by
    rw [continuation?_last, offered?, next, Option.filter_some]
    simp [nonempty]
  rw [stepFrom_of_fetchPage e.phase?_last fetched]
  simp only [reportProgress, goes]
  rfl

theorem encode_within_ne_empty (token : Option String) : (e.within token).encode ≠ "" := by
  have nonempty := Cursor.isEmpty_encode (c := e.within token) (by simp [within])
  rintro empty
  rw [empty] at nonempty
  cases nonempty

section Divisible

variable {e} (divisible : e.Divisible)

include divisible

theorem whole_append (records more : List e.Record) :
    e.whole (records ++ more) = do
      let items ← Run.inPhase e.tag (e.translate records)
      let others ← e.whole more
      return items ++ others := by
  simp only [whole, divisible.append, Run.inPhase_bind, bind_assoc]
  rfl

omit divisible in
theorem fetchPage_loaded {records : List e.Record} (loads : e.load s = (.ok records, t))
    {offset : Int} (starts : offsetOf? token = some offset) :
    fetchPage e.paging (markerPhase e.tag size e.load e.translate) token s =
      (.ok (pageAt records size offset), t) := by
  refine Run.onFailure_of_ok ?_
  simp only [markerPhase]
  rw [Run.bind_of_ok loads, starts]
  rfl

theorem tagged_within_last (token : Option String) : (e.within token).Tagged := by
  simp [Cursor.Tagged, within, divisible.tagged]

theorem operation_within (size : Nat) (token : Option String) :
    e.operation size (e.within token).encode =
      stepFrom e.paging Context.never (e.phases size) (e.within token) ⟨e.tag, token, none⟩ :=
  step_encode (tagged_within_last divisible token) rfl

/-- A page that offers no token concludes the enumeration. -/
theorem concludes_last {page : Page e.Record} (last : page.next = none)
    (fetched : fetchPage e.paging (markerPhase e.tag size e.load e.translate) token s =
      (.ok page, t)) :
    Concludes (e.operation size) (e.within token).encode s (e.whole page.records t).1
      (e.whole page.records t).2 := by
  have page := stepFrom_last e last fetched
  rw [← operation_within divisible] at page
  match translated : e.whole _ t with
  | (.error stop, u) =>
    rw [Run.bind_of_error translated] at page
    exact .stops page
  | (.ok items, u) =>
    rw [Run.bind_of_ok translated] at page
    exact .last page

/-- The pages from an offset on take the records that they deliver to what these come to in one
piece. -/
theorem concludes_within (positive : 0 < size) {records : List e.Record}
    (short : records.length ≤ 10 ^ maxWrittenDigits) {offset : Int}
    (starts : offsetOf? token = some offset) (loads : e.load s = (.ok records, t)) :
    Concludes (e.operation size) (e.within token).encode s
      (e.whole (delivered records size offset) t).1
      (e.whole (delivered records size offset) t).2 := by
  -- On how far the offset is from the end of the list.
  induction left : (records.length - offset).toNat using Nat.strongRecOn
    generalizing offset token s t with
  | ind left inductionHypothesis =>
    have fetched : fetchPage e.paging (markerPhase e.tag size e.load e.translate) token s =
        (.ok (pageAt records size offset), t) := fetchPage_loaded loads starts
    by_cases more : offset + size < records.length
    · have offered : (pageAt records size offset).next = some (toString (offset + size)) := by
        simp only [pageAt]
        rw [if_pos more]
      have bounded := Connector.natAbs_lt_of_offsetOf? starts
      have readable : offsetOf? (some (toString (offset + size))) = some (offset + size) :=
        offsetOf?_toString (by omega)
      have here : (pageAt records size offset).records = range records offset (offset + size) := rfl
      have page := stepFrom_next e offered (Connector.toString_ne_empty _) fetched
      rw [← operation_within divisible, here] at page
      rw [Connector.delivered_of_next positive more, whole_append divisible]
      obtain ⟨outcome, u, translated⟩ : ∃ outcome u,
          Run.inPhase e.tag (e.translate (range records offset (offset + size))) t =
            (outcome, u) := ⟨_, _, rfl⟩
      cases outcome with
      | error stop =>
        rw [Run.bind_of_error translated] at page ⊢
        exact .stops page
      | ok items =>
        rw [Run.bind_of_ok translated] at page ⊢
        -- The list is still what it was, so the rest is cut out of the same list.
        have kept : e.load u = (.ok records, u) :=
          ((divisible.keeps records _).inPhase e.tag).kept (divisible.loaded s records t loads)
            translated
        rw [Run.bind_pure_apply]
        exact .next page (e.encode_within_ne_empty _)
          (inductionHypothesis (records.length - (offset + size)).toNat (by omega) readable kept
            rfl)
    · have last : (pageAt records size offset).next = none := by
        simp only [pageAt]
        rw [if_neg more]
      rw [Connector.delivered_of_last (by omega)]
      exact concludes_last divisible last fetched

omit divisible in
/-- A list that is not loaded is no matter of the size of pages. -/
theorem fetchPage_unloaded {stop : Stop} (failed : e.load s = (.error stop, t)) (size other : Nat) :
    fetchPage e.paging (markerPhase e.tag size e.load e.translate) token s =
      fetchPage e.paging (markerPhase e.tag other e.load e.translate) token s := by
  have fetched (size : Nat) :
      (markerPhase e.tag size e.load e.translate).fetch token s = (.error stop, t) :=
    Run.bind_of_error failed
  rw [fetchPage, fetchPage, Run.onFailure, Run.onFailure, Run.tryCatch_of_error (fetched size),
    Run.tryCatch_of_error (fetched other)]
  rfl

omit divisible in
theorem eq_empty_of_fetchPage {stop : Stop} (failed : e.load s = (.error stop, t))
    {page : Page e.Record} {u : Session}
    (fetched : fetchPage e.paging (markerPhase e.tag size e.load e.translate) token s =
      (.ok page, u)) : page = .empty := by
  have unloaded : (markerPhase e.tag size e.load e.translate).fetch token s = (.error stop, t) :=
    Run.bind_of_error failed
  obtain found | ⟨failure, v, -, handled⟩ := Run.exists_of_onFailure fetched
  · cases unloaded.symm.trans found
  · split at handled
    next =>
      obtain ⟨_, _, -, handled⟩ := Run.exists_of_bind handled
      cases handled
      rfl
    next => cases handled

/-- The last phase comes to the same with pages of all sizes. -/
theorem exists_concludes (s : Session) (short : ∀ records t, e.load s = (.ok records, t) →
      records.length ≤ 10 ^ maxWrittenDigits) :
    ∃ outcome t, ∀ size, 0 < size →
      Concludes (e.operation size) (e.within none).encode s outcome t := by
  match loads : e.load s with
  | (.ok records, u) =>
    have starts : offsetOf? none = some 0 := rfl
    refine ⟨(e.whole records u).1, (e.whole records u).2, fun size positive => ?_⟩
    have pages := concludes_within divisible positive (short records u loads) starts loads
    rwa [Connector.delivered_zero] at pages
  | (.error stop, u) =>
    match fetched : fetchPage e.paging (markerPhase e.tag (1 : Nat) e.load e.translate) none s with
    | (.ok page, v) =>
      obtain rfl := eq_empty_of_fetchPage loads fetched
      exact ⟨_, _, fun size _ =>
        concludes_last divisible rfl ((fetchPage_unloaded loads size 1).trans fetched)⟩
    | (.error failed, v) =>
      refine ⟨.error (failed.inPhase e.tag), v, fun size _ => .stops ?_⟩
      rw [operation_within divisible]
      exact stepFrom_of_fetchPage_error e.phase?_last
        ((fetchPage_unloaded loads size 1).trans fetched)

end Divisible

/-! ## The phases before -/

def opening : Cursor :=
  ⟨e.before.map (fun phase => ⟨phase.tag, phase.initialToken, none⟩) ++ [⟨e.tag, none, none⟩]⟩

/-- The text continues the enumeration at the cursor. -/
def Stands (cursor : Cursor) (text : String) : Prop :=
  text = cursor.encode ∨ text = "" ∧ cursor = e.opening

/-- The text continues the enumeration in a phase before the last one. -/
def Ahead (text : String) : Prop :=
  ∃ cursor position others, e.Stands cursor text ∧
    cursor.positions = position :: others ++ [⟨e.tag, none, none⟩] ∧
    ∀ p ∈ position :: others, p.tag ≠ "" ∧ p.tag ≠ e.tag

theorem start_phases (size : Nat) : start (e.phases size) = e.opening := by
  simp [start, phases, opening, markerPhase]

theorem phase?_ahead {tag : String} (ahead : tag ≠ e.tag) (size other : Nat) :
    phase? (e.phases size) tag = phase? (e.phases other) tag := by
  simp [phase?, phases, markerPhase, ahead.symm]

section Divisible

variable {e} (divisible : e.Divisible)

include divisible

theorem operation_of_stands {cursor : Cursor} {text : String} {position : Position}
    {others : List Position} (stands : e.Stands cursor text) (tagged : cursor.Tagged)
    (positions : cursor.positions = position :: others) (size : Nat) :
    e.operation size text =
      stepFrom e.paging Context.never (e.phases size) cursor position := by
  obtain rfl | ⟨rfl, rfl⟩ := stands
  · exact step_encode tagged positions
  · have readable : ∀ phase ∈ e.phases size, phase.tag ≠ "" := by
      simp only [phases, List.forall_mem_append, List.forall_mem_singleton]
      exact ⟨fun phase member => (divisible.others phase member).1, divisible.tagged⟩
    rw [← e.start_phases size] at tagged positions ⊢
    exact (step_empty readable (by simp [phases])).trans (step_encode tagged positions)

theorem operation_ahead {text : String} (ahead : e.Ahead text) (size other : Nat) :
    e.operation size text = e.operation other text := by
  obtain ⟨cursor, position, others, stands, positions, tags⟩ := ahead
  have tagged : cursor.Tagged := by
    rw [Cursor.Tagged, positions, List.forall_mem_append, List.forall_mem_singleton]
    exact ⟨fun p member => (tags p member).1, divisible.tagged⟩
  rw [operation_of_stands divisible stands tagged positions,
    operation_of_stands divisible stands tagged positions]
  unfold stepFrom
  rw [phase?_ahead e (tags position List.mem_cons_self).2 size other]

omit divisible in
theorem ahead_or_stands {cursor : Cursor} {text : String} (others : List Position)
    (stands : e.Stands cursor text) (positions : cursor.positions = others ++ [⟨e.tag, none, none⟩])
    (tags : ∀ p ∈ others, p.tag ≠ "" ∧ p.tag ≠ e.tag) :
    e.Ahead text ∨ e.Stands (e.within none) text := by
  cases others with
  | nil =>
    obtain ⟨_⟩ := cursor
    cases positions
    exact .inr stands
  | cons position others => exact .inl ⟨cursor, position, others, stands, positions, tags⟩

/-- After a page of a phase before the last one, the enumeration goes on in that phase or in the
next. -/
theorem ahead_of_page {text following : String} (ahead : e.Ahead text) {items : List ι}
    (page : e.operation size text s = (.ok (items, following), t)) :
    e.Ahead following ∨ e.Stands (e.within none) following := by
  obtain ⟨cursor, position, others, stands, positions, tags⟩ := ahead
  have tagged : cursor.Tagged := by
    rw [Cursor.Tagged, positions, List.forall_mem_append, List.forall_mem_singleton]
    exact ⟨fun p member => (tags p member).1, divisible.tagged⟩
  rw [operation_of_stands divisible stands tagged positions] at page
  obtain ⟨token, rfl⟩ := exists_of_stepFrom page
  obtain ⟨_⟩ := cursor
  cases positions
  obtain ⟨first, rest⟩ := List.forall_mem_cons.mp tags
  cases token with
  | none => exact ahead_or_stands others (.inl rfl) rfl rest
  | some token =>
    exact ahead_or_stands ({ position with token := some token } :: others) (.inl rfl) rfl
      (List.forall_mem_cons.mpr ⟨first, rest⟩)

/-- What an enumeration comes to is no matter of the size of pages. -/
theorem Divisible.concludes {size other : Nat} (positive : 0 < size) (positive' : 0 < other)
    (short : ∀ reached u, Passes (e.operation size) "" s reached u → ∀ records v,
      e.load u = (.ok records, v) → records.length ≤ 10 ^ maxWrittenDigits)
    {outcome : Except Stop (List ι)} (concludes : Concludes (e.operation size) "" s outcome t) :
    Concludes (e.operation other) "" s outcome t := by
  refine concludes.of_same (P := e.Ahead) (Q := e.Stands (e.within none))
    (fun text ahead => operation_ahead divisible ahead size other)
    (fun text s items following t ahead page _ => ahead_of_page divisible ahead page)
    (ahead_or_stands _ (.inr ⟨rfl, rfl⟩) rfl ?_) ?_
  · simp only [List.forall_mem_map]
    exact divisible.others
  · intro reached u outcome v passes handed here
    -- The text may be the empty one, if there is no other phase.
    have same (size : Nat) : e.operation size reached = e.operation size (e.within none).encode :=
      (operation_of_stands divisible handed (tagged_within_last divisible none) rfl size).trans
        (operation_within divisible size none).symm
    obtain ⟨_, _, all⟩ := exists_concludes divisible u (short reached u passes)
    obtain ⟨rfl, rfl⟩ := (here.of_text (same size)).unique (all size positive)
    exact (all other positive').of_text (same other).symm

end Divisible

end ListedLast
end Enumeration
end AccessSync
