import AccessSync.Proofs.Json.Texts

/-!
# Reading what was written

`parse?_compact` says that the reader gives a document back as it was, for every document without
decimal numbers whose records name each field once and whose whole numbers are not too long to be
read at all: `Restorable` is that class. The induction is over a document; a list and a record go
through by an induction over their items. Two things are carried along: the fuel exceeds the
number of characters of the value (`ReadsBack`), and what follows a number does not prolong it
(`Delimited`).
-/

namespace AccessSync.Json

/-! ## Whole numbers -/

/-- The input goes on as it does after a value inside a list or an object, or ends. -/
def Delimited (rest : List Char) : Prop :=
  ∀ c ∈ rest.head?, c = ',' ∨ c = ']' ∨ c = '\x7d'

theorem asciiDigit?_eq (c : Char) :
    Text.asciiDigit? c = if c.isDigit then some (c.toNat - 48) else none := by
  have code : ('0' ≤ c && c ≤ '9') = c.isDigit := rfl
  rw [Text.asciiDigit?, code]

theorem takeDigits_append {digits rest : List Char} (all : ∀ c ∈ digits, c.isDigit = true)
    (ends : Delimited rest) :
    takeDigits (digits ++ rest) = (digits.map (·.toNat - 48), rest) := by
  induction digits with
  | nil =>
    cases rest with
    | nil => rfl
    | cons c rest =>
      have noDigit : Text.asciiDigit? c = none := by
        rcases ends c rfl with rfl | rfl | rfl <;> rfl
      simp [takeDigits, noDigit]
  | cons c digits inductionHypothesis =>
    have digit := all c List.mem_cons_self
    have others := inductionHypothesis fun d member => all d (List.mem_cons_of_mem c member)
    simp [takeDigits, asciiDigit?_eq, digit, others]

theorem digitsToNat_toDigits (n : Nat) :
    Text.digitsToNat 0 ((Nat.toDigits 10 n).map (·.toNat - 48)) = n := by
  rw [Text.digitsToNat, List.foldl_map]
  exact (Nat.ofDigitChars_eq_foldl (b := 10)).symm.trans Nat.ofDigitChars_ten_toDigits

theorem head?_toDigits_ne_zero {n : Nat} (positive : 0 < n) :
    (Nat.toDigits 10 n).head? ≠ some '0' := by
  induction n using Nat.strongRecOn with
  | ind n inductionHypothesis =>
    rw [Nat.toDigits_eq_if (by decide)]
    split
    next small =>
      have digits : ∀ d < 10, 0 < d → [Nat.digitChar d].head? ≠ some '0' := by decide
      exact digits n small positive
    next large =>
      have front := inductionHypothesis (n / 10) (by omega) (by omega)
      cases digits : Nat.toDigits 10 (n / 10) with
      | nil => exact absurd digits Nat.toDigits_ne_nil
      | cons c cs => simpa [digits] using front

theorem takeWhole_toDigits (n : Nat) {rest : List Char} (ends : Delimited rest) :
    takeWhole (Nat.toDigits 10 n ++ rest) =
      some ((Nat.toDigits 10 n).map (·.toNat - 48), rest) := by
  rcases Nat.eq_zero_or_pos n with rfl | positive
  · rfl
  · cases digits : Nat.toDigits 10 n with
    | nil => exact absurd digits Nat.toDigits_ne_nil
    | cons c cs =>
      have notZero : c ≠ '0' := by
        have head := head?_toDigits_ne_zero positive
        rw [digits] at head
        simpa using head
      have all : ∀ d ∈ c :: cs, d.isDigit = true := fun d member =>
        Nat.isDigit_of_mem_toDigits (by decide) (by decide) (digits ▸ member)
      rw [List.cons_append, takeWhole, ← List.cons_append, takeDigits_append all ends]
      · rfl
      · simpa using notZero

theorem takeFraction_delimited {rest : List Char} (ends : Delimited rest) :
    takeFraction rest = (none, rest) := by
  cases rest with
  | nil => rfl
  | cons c rest => rcases ends c rfl with rfl | rfl | rfl <;> rfl

theorem takePower_delimited {rest : List Char} (ends : Delimited rest) :
    takePower rest = (none, rest) := by
  cases rest with
  | nil => rfl
  | cons c rest => rcases ends c rfl with rfl | rfl | rfl <;> rfl

theorem readUnsigned_toDigits (negative : Bool) {n : Nat}
    (short : (Nat.toDigits 10 n).length ≤ maxWrittenDigits) {rest : List Char}
    (ends : Delimited rest) :
    readUnsigned negative (Nat.toDigits 10 n ++ rest) =
      some (.int (if negative then -(n : Int) else n), rest) := by
  simp [readUnsigned, takeWhole_toDigits n ends, takeFraction_delimited ends,
    takePower_delimited ends, digitsToNat_toDigits, Nat.not_lt.mpr short]

theorem ne_of_isDigit {c d : Char} (digit : c.isDigit = true) (other : d.isDigit = false) :
    c ≠ d := by
  rintro rfl
  rw [digit] at other
  contradiction

theorem readWord_digit {c : Char} (cs : List Char) (digit : c.isDigit = true) :
    readWord (c :: cs) = none := by
  have other : ∀ d : Char, d.isDigit = false → (d == c) = false := fun d noDigit =>
    beq_eq_false_iff_ne.mpr (ne_of_isDigit digit noDigit).symm
  simp [readWord, words, List.isPrefixOf, other]

theorem readWord_minus_digit {c : Char} (cs : List Char) (digit : c.isDigit = true) :
    readWord ('-' :: c :: cs) = none := by
  have notLetter : ('I' == c) = false :=
    beq_eq_false_iff_ne.mpr (ne_of_isDigit digit rfl).symm
  simp [readWord, words, List.isPrefixOf, notLetter]

theorem toDigits_cons (n : Nat) :
    ∃ c cs, Nat.toDigits 10 n = c :: cs ∧ c.isDigit = true := by
  cases digits : Nat.toDigits 10 n with
  | nil => exact absurd digits Nat.toDigits_ne_nil
  | cons c cs =>
    have member : c ∈ Nat.toDigits 10 n := digits ▸ List.mem_cons_self
    exact ⟨c, cs, rfl, Nat.isDigit_of_mem_toDigits (by decide) (by decide) member⟩

theorem readScalar_toDigits {n : Nat} (short : (Nat.toDigits 10 n).length ≤ maxWrittenDigits)
    {rest : List Char} (ends : Delimited rest) :
    readScalar (Nat.toDigits 10 n ++ rest) = some (.int n, rest) := by
  obtain ⟨c, cs, digits, digit⟩ := toDigits_cons n
  have read := readUnsigned_toDigits false short ends
  rw [digits, List.cons_append] at read ⊢
  have notMinus : c ≠ '-' := ne_of_isDigit digit rfl
  simpa [readScalar, readWord_digit _ digit, notMinus] using read

theorem readScalar_minus_toDigits {n : Nat}
    (short : (Nat.toDigits 10 n).length ≤ maxWrittenDigits) {rest : List Char}
    (ends : Delimited rest) :
    readScalar ('-' :: Nat.toDigits 10 n ++ rest) = some (.int (-n), rest) := by
  obtain ⟨c, cs, digits, digit⟩ := toDigits_cons n
  have read := readUnsigned_toDigits true short ends
  rw [digits, List.cons_append] at read
  rw [digits, List.cons_append, List.cons_append]
  simpa [readScalar, readWord_minus_digit _ digit] using read

theorem readScalar_int {n : Int} (short : (Nat.toDigits 10 n.natAbs).length ≤ maxWrittenDigits)
    {rest : List Char} (ends : Delimited rest) :
    readScalar ((toString n).toList ++ rest) = some (.int n, rest) := by
  rw [Int.toString_eq_repr, Int.repr_eq_if]
  split
  next nonnegative =>
    have size : n.toNat = n.natAbs := by omega
    have value : ((n.natAbs : Nat) : Int) = n := by omega
    rw [Nat.toList_repr, size, readScalar_toDigits short ends, value]
  next negative =>
    have size : (-n).toNat = n.natAbs := by omega
    have value : -((n.natAbs : Nat) : Int) = n := by omega
    rw [String.toList_append, Nat.toList_repr, size]
    exact (readScalar_minus_toDigits short ends).trans (by rw [value])

theorem toString_cons (n : Int) :
    ∃ c cs, (toString n).toList = c :: cs ∧ (c.isDigit = true ∨ c = '-') := by
  rw [Int.toString_eq_repr, Int.repr_eq_if]
  split
  next nonnegative =>
    obtain ⟨c, cs, digits, digit⟩ := toDigits_cons n.toNat
    exact ⟨c, cs, by rw [Nat.toList_repr, digits], .inl digit⟩
  next negative => exact ⟨'-', _, by rw [String.toList_append]; rfl, .inr rfl⟩

/-! ## Documents -/

/-- A value that is read back as it was written. -/
inductive Restorable : Value → Prop where
  | null : Restorable .null
  | bool (b : Bool) : Restorable (.bool b)
  | int (n : Int) (short : (Nat.toDigits 10 n.natAbs).length ≤ maxWrittenDigits) :
      Restorable (.int n)
  | text (s : String) : Restorable (.text s)
  | list (items : List Value) (all : ∀ v ∈ items, Restorable v) : Restorable (.list items)
  | record (fields : List (String × Value)) (distinct : (fields.map Prod.fst).Nodup)
      (all : ∀ field ∈ fields, Restorable field.2) : Restorable (.record fields)

abbrev entriesOf (fields : List (String × Value)) : List (Key × Value) :=
  fields.map fun (k, v) => (Key.text k, v)

theorem setEntry_fresh (key : String) (value : Value) (fields : List (String × Value))
    (fresh : key ∉ fields.map Prod.fst) :
    setEntry (.text key) value (entriesOf fields) = entriesOf (fields ++ [(key, value)]) := by
  induction fields with
  | nil => rfl
  | cons field fields inductionHypothesis =>
    obtain ⟨k, v⟩ := field
    simp only [List.map_cons, List.mem_cons, not_or] at fresh
    have other : Key.same (.text k) (.text key) = false := by
      simpa [Key.same] using fun same => fresh.1 same.symm
    simp [setEntry, other, inductionHypothesis fresh.2]

theorem overlay_distinct (base fields : List (String × Value))
    (distinct : ((base ++ fields).map Prod.fst).Nodup) :
    overlay (entriesOf base) (entriesOf fields) = entriesOf (base ++ fields) := by
  induction fields generalizing base with
  | nil => simp [overlay]
  | cons field fields inductionHypothesis =>
    obtain ⟨k, v⟩ := field
    have fresh : k ∉ base.map Prod.fst := by
      rw [List.map_append, List.map_cons] at distinct
      intro member
      exact (List.nodup_append.mp distinct).2.2 k member k List.mem_cons_self rfl
    have regrouped : base ++ (k, v) :: fields = (base ++ [(k, v)]) ++ fields := by simp
    rw [regrouped] at distinct ⊢
    rw [← inductionHypothesis _ distinct]
    simp only [overlay, List.map_cons, List.foldl_cons, setEntry_fresh k v base fresh]

theorem lastValues_distinct (fields : List (String × Value))
    (distinct : (fields.map Prod.fst).Nodup) :
    lastValues fields = entriesOf fields :=
  overlay_distinct [] fields distinct

/-! ## Heads of written values -/

/-- A written value starts with neither a space nor the end of a list. -/
theorem inlineChars_cons {v : Value} (restorable : Restorable v) :
    ∃ c cs, inlineChars [] v = c :: cs ∧ isSpace c = false ∧ c ≠ ']' := by
  cases restorable with
  | null => exact ⟨_, _, by rw [inlineChars]; rfl, by decide, by decide⟩
  | bool b => cases b <;> exact ⟨_, _, by rw [inlineChars]; rfl, by decide, by decide⟩
  | int n short =>
    obtain ⟨c, cs, chars, digit | rfl⟩ := toString_cons n
    · have other := fun d : Char => ne_of_isDigit (d := d) digit
      refine ⟨c, cs, by rw [inlineChars, chars], ?_, other ']' rfl⟩
      simp [isSpace, other ' ' rfl, other '\t' rfl, other '\n' rfl, other '\r' rfl]
    · exact ⟨'-', cs, by rw [inlineChars, chars], by decide, by decide⟩
  | text s => exact ⟨_, _, by rw [inlineChars, textChars]; rfl, by decide, by decide⟩
  | list items all => exact ⟨_, _, by rw [inlineChars]; rfl, by decide, by decide⟩
  | record fields distinct all =>
    exact ⟨_, _, by rw [Value.record, inlineChars]; rfl, by decide, by decide⟩

theorem skipSpace_cons {c : Char} (cs : List Char) (visible : isSpace c = false) :
    skipSpace (c :: cs) = c :: cs := by
  simp [skipSpace, visible]

theorem inlineItems_cons (v w : Value) (items : List Value) :
    inlineItems [] (v :: w :: items) = inlineChars [] v ++ ',' :: inlineItems [] (w :: items) := by
  simp [inlineItems]

theorem inlineEntries_cons (k l : Key) (v w : Value) (entries : List (Key × Value)) :
    inlineEntries [] ((k, v) :: (l, w) :: entries) =
      textChars (keyText k) ++ ':' :: (inlineChars [] v ++ ',' ::
        inlineEntries [] ((l, w) :: entries)) := by
  simp [inlineEntries]

theorem inlineItems_head (items : List Value) (nonempty : items ≠ [])
    (all : ∀ v ∈ items, Restorable v) :
    ∃ c cs, inlineItems [] items = c :: cs ∧ isSpace c = false ∧ c ≠ ']' := by
  cases items with
  | nil => contradiction
  | cons v items =>
    obtain ⟨c, cs, chars, visible, notEnd⟩ := inlineChars_cons (all v List.mem_cons_self)
    cases items with
    | nil => exact ⟨c, cs, by rw [inlineItems, chars], visible, notEnd⟩
    | cons w items => exact ⟨c, _, by rw [inlineItems_cons, chars]; rfl, visible, notEnd⟩

theorem inlineEntries_head (entries : List (Key × Value)) (nonempty : entries ≠ []) :
    ∃ cs, inlineEntries [] entries = '"' :: cs := by
  match entries with
  | [] => contradiction
  | [(k, v)] => exact ⟨_, by rw [inlineEntries, textChars]; rfl⟩
  | (k, v) :: (l, w) :: entries => exact ⟨_, by rw [inlineEntries_cons, textChars]; rfl⟩

/-! ## Values, items and entries -/

/-- Enough fuel reads the value and leaves what follows it. -/
def ReadsBack (v : Value) : Prop :=
  ∀ fuel rest, (inlineChars [] v).length < fuel → Delimited rest →
    readValue fuel (inlineChars [] v ++ rest) = some (v, rest)

theorem readItems_inlineItems {items : List Value} (nonempty : items ≠ [])
    (all : ∀ v ∈ items, Restorable v) (each : ∀ v ∈ items, ReadsBack v) (fuel : Nat)
    (enough : (inlineItems [] items).length + 1 < fuel) (rest : List Char) :
    readItems fuel (inlineItems [] items ++ ']' :: rest) = some (items, rest) := by
  induction items generalizing fuel with
  | nil => contradiction
  | cons v items inductionHypothesis =>
    obtain ⟨fuel, rfl⟩ : ∃ n, fuel = n + 1 := ⟨fuel - 1, by omega⟩
    cases items with
    | nil =>
      rw [inlineItems] at enough ⊢
      have read := each v List.mem_cons_self fuel (']' :: rest) (by omega) (by simp [Delimited])
      rw [readItems, read]
      simp [skipSpace_cons _ (show isSpace ']' = false by decide)]
    | cons w items =>
      rw [inlineItems_cons] at enough ⊢
      simp only [List.length_append, List.length_cons] at enough
      have read := each v List.mem_cons_self fuel
        (',' :: (inlineItems [] (w :: items) ++ ']' :: rest)) (by omega) (by simp [Delimited])
      have others := inductionHypothesis (by simp)
        (fun x member => all x (List.mem_cons_of_mem v member))
        (fun x member => each x (List.mem_cons_of_mem v member)) fuel (by omega)
      obtain ⟨c, cs, chars, visible, -⟩ := inlineItems_head (w :: items) (by simp)
        fun x member => all x (List.mem_cons_of_mem v member)
      rw [List.append_assoc, List.cons_append, readItems, read]
      rw [chars] at others ⊢
      rw [List.cons_append] at others ⊢
      simp [skipSpace_cons _ (show isSpace ',' = false by decide), skipSpace_cons _ visible, others]

/-- Reading one entry leaves the decision about the others to what follows it. -/
theorem readEntries_field (k : String) {v : Value} (restorable : Restorable v) {fuel : Nat}
    {rest : List Char} (read : readValue fuel (inlineChars [] v ++ rest) = some (v, rest)) :
    readEntries (fuel + 1) (textChars k ++ ':' :: (inlineChars [] v ++ rest)) =
      match skipSpace rest with
      | '\x7d' :: left => some ([(k, v)], left)
      | ',' :: inner =>
        (readEntries fuel (skipSpace inner)).map fun (entries, left) => ((k, v) :: entries, left)
      | _ => none := by
  obtain ⟨c, cs, chars, visible, -⟩ := inlineChars_cons restorable
  have key := readText_escaped k.toList (':' :: (inlineChars [] v ++ rest))
  rw [chars, List.cons_append] at read key ⊢
  have taken := Eq.refl (readEntries (fuel + 1) (textChars k ++ ':' :: c :: (cs ++ rest)))
  conv at taken =>
    rhs
    simp only [textChars, List.cons_append, List.append_assoc, List.nil_append, readEntries, key,
      skipSpace_cons _ (show isSpace ':' = false by decide), skipSpace_cons _ visible, read,
      String.ofList_toList]
  exact taken

theorem readEntries_inlineEntries {fields : List (String × Value)} (nonempty : fields ≠ [])
    (all : ∀ field ∈ fields, Restorable field.2) (each : ∀ field ∈ fields, ReadsBack field.2)
    (fuel : Nat) (enough : (inlineEntries [] (entriesOf fields)).length + 1 < fuel)
    (rest : List Char) :
    readEntries fuel (inlineEntries [] (entriesOf fields) ++ '\x7d' :: rest) =
      some (fields, rest) := by
  induction fields generalizing fuel with
  | nil => contradiction
  | cons field fields inductionHypothesis =>
    obtain ⟨fuel, rfl⟩ : ∃ n, fuel = n + 1 := ⟨fuel - 1, by omega⟩
    obtain ⟨k, v⟩ := field
    have restorable := all (k, v) List.mem_cons_self
    cases fields with
    | nil =>
      have written : inlineEntries [] (entriesOf [(k, v)]) ++ '\x7d' :: rest =
          textChars k ++ ':' :: (inlineChars [] v ++ '\x7d' :: rest) := by
        simp [inlineEntries, keyText]
      have read := each (k, v) List.mem_cons_self fuel ('\x7d' :: rest)
        (by simp [inlineEntries] at enough; dsimp only; omega) (by simp [Delimited])
      rw [written, readEntries_field k restorable read]
      simp [skipSpace_cons _ (show isSpace '\x7d' = false by decide)]
    | cons other fields =>
      have written : inlineEntries [] (entriesOf ((k, v) :: other :: fields)) ++ '\x7d' :: rest =
          textChars k ++ ':' :: (inlineChars [] v ++
            ',' :: (inlineEntries [] (entriesOf (other :: fields)) ++ '\x7d' :: rest)) := by
        simp [inlineEntries_cons, keyText]
      simp only [entriesOf, List.map_cons, inlineEntries_cons, List.length_append, List.length_cons]
        at enough
      have read := each (k, v) List.mem_cons_self fuel
        (',' :: (inlineEntries [] (entriesOf (other :: fields)) ++ '\x7d' :: rest))
        (by dsimp only; omega) (by simp [Delimited])
      have others := inductionHypothesis (by simp)
        (fun x member => all x (List.mem_cons_of_mem _ member))
        (fun x member => each x (List.mem_cons_of_mem _ member)) fuel
        (by simp only [entriesOf, List.map_cons]; omega)
      obtain ⟨cs, chars⟩ := inlineEntries_head (entriesOf (other :: fields)) (by simp)
      rw [written, readEntries_field k restorable read]
      rw [chars, List.cons_append] at others ⊢
      simp [skipSpace_cons _ (show isSpace ',' = false by decide),
        skipSpace_cons _ (show isSpace '"' = false by decide), others]

theorem readsBack_scalar {v : Value} {c : Char} {cs : List Char}
    (chars : inlineChars [] v = c :: cs) (notText : c ≠ '"') (notList : c ≠ '[')
    (notRecord : c ≠ '\x7b')
    (scalar : ∀ rest, Delimited rest → readScalar (inlineChars [] v ++ rest) = some (v, rest)) :
    ReadsBack v := by
  intro fuel rest enough ends
  obtain ⟨fuel, rfl⟩ : ∃ n, fuel = n + 1 := ⟨fuel - 1, by omega⟩
  have read := scalar rest ends
  rw [chars, List.cons_append] at read ⊢
  rw [readValue.eq_def]
  simp only
  split <;> simp_all

theorem readsBack_of_restorable {v : Value} (restorable : Restorable v) : ReadsBack v := by
  -- On the document; lists and records carry the facts of their items along as `each`.
  induction restorable with
  | null =>
    refine readsBack_scalar (by rw [inlineChars]; rfl) (by decide) (by decide) (by decide) ?_
    simp [inlineChars, readScalar, readWord, words]
  | bool b =>
    cases b <;>
      refine readsBack_scalar (by rw [inlineChars]; rfl) (by decide) (by decide) (by decide) ?_ <;>
      simp [inlineChars, readScalar, readWord, words]
  | int n short =>
    obtain ⟨c, cs, chars, digit | rfl⟩ := toString_cons n
    · exact readsBack_scalar (by rw [inlineChars, chars]) (ne_of_isDigit digit rfl)
        (ne_of_isDigit digit rfl) (ne_of_isDigit digit rfl)
        fun rest ends => by rw [inlineChars]; exact readScalar_int short ends
    · exact readsBack_scalar (by rw [inlineChars, chars]) (by decide) (by decide) (by decide)
        fun rest ends => by rw [inlineChars]; exact readScalar_int short ends
  | text s =>
    intro fuel rest enough ends
    obtain ⟨fuel, rfl⟩ : ∃ n, fuel = n + 1 := ⟨fuel - 1, by omega⟩
    have read := readText_escaped s.toList rest
    simp [inlineChars, textChars, readValue, read]
  | list items all each =>
    intro fuel rest enough ends
    obtain ⟨fuel, rfl⟩ : ∃ n, fuel = n + 1 := ⟨fuel - 1, by omega⟩
    rw [inlineChars] at enough ⊢
    by_cases nonempty : items = []
    · subst nonempty
      simp [inlineItems, readValue, skipSpace_cons _ (show isSpace ']' = false by decide)]
    · obtain ⟨c, cs, chars, visible, notEnd⟩ := inlineItems_head items nonempty all
      have read := readItems_inlineItems nonempty all each fuel (by simpa using enough) rest
      rw [chars, List.cons_append] at read
      simp [chars, readValue, skipSpace_cons _ visible, notEnd, read]
  | record fields distinct all each =>
    intro fuel rest enough ends
    obtain ⟨fuel, rfl⟩ : ∃ n, fuel = n + 1 := ⟨fuel - 1, by omega⟩
    rw [Value.record, inlineChars] at enough ⊢
    by_cases nonempty : fields = []
    · subst nonempty
      simp [inlineEntries, readValue, skipSpace_cons _ (show isSpace '\x7d' = false by decide)]
    · obtain ⟨cs, chars⟩ := inlineEntries_head (entriesOf fields) (by simpa using nonempty)
      have read := readEntries_inlineEntries nonempty all each fuel (by simpa using enough) rest
      rw [chars, List.cons_append] at read
      simp [chars, readValue, skipSpace_cons _ (show isSpace '"' = false by decide), read,
        lastValues_distinct fields distinct]

/-- A written document is read back as it was. -/
theorem parse?_compact {v : Value} (restorable : Restorable v) :
    parse? (compact v) = some v := by
  have read := readsBack_of_restorable restorable ((inlineChars [] v).length + 1) [] (by omega)
    (by simp [Delimited])
  obtain ⟨c, cs, chars, visible, -⟩ := inlineChars_cons restorable
  rw [List.append_nil] at read
  simp only [parse?, compact, String.toList_ofList]
  rw [chars] at read ⊢
  rw [skipSpace_cons _ visible, read]
  rfl

/-- Documents with the same text are the same. -/
theorem compact_inj {v w : Value} (restorable : Restorable v) (other : Restorable w)
    (same : compact v = compact w) : v = w := by
  have read := parse?_compact restorable
  rw [same, parse?_compact other] at read
  exact (Option.some.inj read).symm

end AccessSync.Json
