import AccessSync.Proofs.Json.RoundTrip

/-!
# Written documents are printable

Whatever stands in the texts of a document, it is written with the characters from the blank to the
tilde: the others are escaped, and the escapes are made of a backslash, letters and hexadecimal
digits.  The induction is over a document, with one lemma for the items of a list and one for the
entries of a record.
-/

namespace AccessSync.Json

/-- A character of ASCII that has a printed form, or the blank. -/
def PrintableAscii (c : Char) : Prop := 0x20 ≤ c.toNat ∧ c.toNat ≤ 0x7e

instance : DecidablePred PrintableAscii := fun c =>
  inferInstanceAs (Decidable (0x20 ≤ c.toNat ∧ c.toNat ≤ 0x7e))

/-- Characters that are known can be looked at one by one. -/
theorem printable_of_all {cs : List Char}
    (known : (cs.all fun c => decide (PrintableAscii c)) = true) : ∀ c ∈ cs, PrintableAscii c :=
  fun c member => of_decide_eq_true (List.all_eq_true.mp known c member)

/-! ## Texts -/

theorem printable_hexDigit : ∀ d < 16, PrintableAscii (Text.hexDigit d) := by
  decide

theorem printable_hexDigits (width n : Nat) : ∀ c ∈ Text.hexDigits width n, PrintableAscii c := by
  induction width generalizing n with
  | zero => simp [Text.hexDigits]
  | succ width inductionHypothesis =>
    intro c member
    rw [Text.hexDigits, List.mem_append, List.mem_singleton] at member
    obtain front | rfl := member
    · exact inductionHypothesis (n / 16) c front
    · exact printable_hexDigit _ (Nat.mod_lt n (by decide))

theorem printable_unitEscape (n : Nat) : ∀ c ∈ unitEscape n, PrintableAscii c := by
  simp only [unitEscape, List.forall_mem_cons]
  exact ⟨by decide, by decide, printable_hexDigits 4 n⟩

theorem printable_escapedChar (c : Char) : ∀ d ∈ escapedChar c, PrintableAscii d := by
  unfold escapedChar
  -- The short escapes are known characters; what is left is a visible character or its units.
  split; · exact printable_of_all (by decide)
  split; · exact printable_of_all (by decide)
  split; · exact printable_of_all (by decide)
  split; · exact printable_of_all (by decide)
  split; · exact printable_of_all (by decide)
  split; · exact printable_of_all (by decide)
  split; · exact printable_of_all (by decide)
  split
  next visible =>
    simp only [Bool.and_eq_true, decide_eq_true_eq] at visible
    simp only [List.forall_mem_singleton, PrintableAscii]
    omega
  split
  next => exact printable_unitEscape _
  next => exact List.forall_mem_append.mpr ⟨printable_unitEscape _, printable_unitEscape _⟩

theorem printable_textChars (s : String) : ∀ c ∈ textChars s, PrintableAscii c := by
  intro c member
  simp only [textChars, List.cons_append, List.mem_cons, List.mem_append, List.mem_flatMap,
    List.not_mem_nil, or_false] at member
  obtain rfl | ⟨d, -, escaped⟩ | rfl := member
  · decide
  · exact printable_escapedChar d c escaped
  · decide

/-! ## Numbers -/

theorem printable_of_isDigit {c : Char} (digit : c.isDigit = true) : PrintableAscii c := by
  have bounds : 48 ≤ c.toNat ∧ c.toNat ≤ 57 := by
    simpa [Char.isDigit, UInt32.le_iff_toNat_le] using digit
  simp only [PrintableAscii]
  omega

theorem printable_toDigits (n : Nat) : ∀ c ∈ Nat.toDigits 10 n, PrintableAscii c :=
  fun _ member =>
    printable_of_isDigit (Nat.isDigit_of_mem_toDigits (by decide) (by decide) member)

theorem printable_toString (n : Int) : ∀ c ∈ (toString n).toList, PrintableAscii c := by
  rw [Int.toString_eq_repr, Int.repr_eq_if]
  split
  next =>
    rw [Nat.toList_repr]
    exact printable_toDigits _
  next =>
    rw [String.toList_append, Nat.toList_repr]
    exact List.forall_mem_append.mpr ⟨printable_of_all (by decide), printable_toDigits _⟩

/-! ## Documents -/

theorem printable_inlineItems {items : List Value}
    (each : ∀ v ∈ items, ∀ c ∈ inlineChars [] v, PrintableAscii c) :
    ∀ c ∈ inlineItems [] items, PrintableAscii c := by
  induction items with
  | nil => simp [inlineItems]
  | cons v items inductionHypothesis =>
    have here := each v List.mem_cons_self
    have there := inductionHypothesis fun w member => each w (List.mem_cons_of_mem v member)
    cases items with
    | nil => simpa [inlineItems] using here
    | cons w items =>
      rw [inlineItems_cons]
      exact List.forall_mem_append.mpr ⟨here, List.forall_mem_cons.mpr ⟨by decide, there⟩⟩

theorem printable_inlineEntries {entries : List (Key × Value)}
    (each : ∀ entry ∈ entries, ∀ c ∈ inlineChars [] entry.2, PrintableAscii c) :
    ∀ c ∈ inlineEntries [] entries, PrintableAscii c := by
  induction entries with
  | nil => simp [inlineEntries]
  | cons entry entries inductionHypothesis =>
    obtain ⟨k, v⟩ := entry
    have key := printable_textChars (keyText k)
    have here := each (k, v) List.mem_cons_self
    have there := inductionHypothesis fun w member => each w (List.mem_cons_of_mem (k, v) member)
    have colon : PrintableAscii ':' := by decide
    have comma : PrintableAscii ',' := by decide
    cases entries with
    | nil =>
      simp only [inlineEntries, List.append_assoc, List.cons_append, List.nil_append]
      exact List.forall_mem_append.mpr ⟨key, List.forall_mem_cons.mpr ⟨colon, here⟩⟩
    | cons other entries =>
      obtain ⟨l, w⟩ := other
      rw [inlineEntries_cons]
      refine List.forall_mem_append.mpr ⟨key, List.forall_mem_cons.mpr ⟨colon, ?_⟩⟩
      exact List.forall_mem_append.mpr ⟨here, List.forall_mem_cons.mpr ⟨comma, there⟩⟩

theorem printable_inlineChars {v : Value} (restorable : Restorable v) :
    ∀ c ∈ inlineChars [] v, PrintableAscii c := by
  induction restorable with
  | null =>
    rw [inlineChars]
    exact printable_of_all (by decide)
  | bool b =>
    rw [inlineChars]
    cases b <;> exact printable_of_all (by decide)
  | int n short =>
    rw [inlineChars]
    exact printable_toString n
  | text s =>
    rw [inlineChars]
    exact printable_textChars s
  | list items all each =>
    rw [inlineChars]
    refine List.forall_mem_cons.mpr ⟨by decide, ?_⟩
    exact List.forall_mem_append.mpr ⟨printable_inlineItems each, printable_of_all (by decide)⟩
  | record fields distinct all each =>
    rw [Value.record, inlineChars]
    have entries : ∀ entry ∈ entriesOf fields, ∀ c ∈ inlineChars [] entry.2,
        PrintableAscii c := by
      intro entry member
      obtain ⟨field, listed, rfl⟩ := List.mem_map.mp member
      exact each field listed
    refine List.forall_mem_cons.mpr ⟨by decide, ?_⟩
    exact List.forall_mem_append.mpr ⟨printable_inlineEntries entries, printable_of_all (by decide)⟩

/-- A written document is a text of printable characters. -/
theorem printable_compact {v : Value} (restorable : Restorable v) :
    ∀ c ∈ (compact v).toList, PrintableAscii c := by
  rw [compact, String.toList_ofList]
  exact printable_inlineChars restorable

end AccessSync.Json
