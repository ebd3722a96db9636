import AccessSync.Json.Reader
import AccessSync.Json.Writer

/-!
# Escaped texts

The reader undoes the escapes of the writer: `readText_escaped` says that the characters between
the quotes come back as they were, whatever follows the closing quote. A character of the basic
plane may be followed by a further unit escape, so the two-unit pattern of the reader has to be
ruled out for it; that is what the cases on the following input are for.
-/

namespace AccessSync.Json

/-! ## Units -/

theorem hexValue?_hexDigit : ∀ d < 16, Text.hexValue? (Text.hexDigit d) = some d := by
  decide

theorem hexQuad?_hexDigits {n : Nat} (small : n < 0x10000) :
    ∃ a b c d, Text.hexDigits 4 n = [a, b, c, d] ∧ hexQuad? a b c d = some n := by
  refine ⟨_, _, _, _, rfl, ?_⟩
  simp only [hexQuad?, hexValue?_hexDigit _ (Nat.mod_lt _ (by decide : 0 < 16)),
    Option.bind_eq_bind, Option.bind_some, Option.pure_def, Option.some.injEq]
  omega

/-! ## One escape -/

/-- An escape that is not written by hexadecimal digits spoils the text, whatever follows it. -/
theorem readText_badUnit {a b c d : Char} (rest : List Char)
    (quad : hexQuad? a b c d = none) :
    readText ('\\' :: 'u' :: a :: b :: c :: d :: rest) = none := by
  by_cases followed : ∃ e f g h left, rest = '\\' :: 'u' :: e :: f :: g :: h :: left
  · obtain ⟨e, f, g, h, left, rfl⟩ := followed
    simp [readText, quad]
  · rw [readText.eq_4 _ _ _ _ _ (by simpa using followed), quad]

theorem readText_unit {a b c d : Char} {unit : Nat} (rest : List Char)
    (quad : hexQuad? a b c d = some unit) (notHigh : isHighSurrogate unit = false) :
    readText ('\\' :: 'u' :: a :: b :: c :: d :: rest) =
      (readText rest).map fun (cs, left) => (unitChar unit :: cs, left) := by
  by_cases followed : ∃ e f g h left, rest = '\\' :: 'u' :: e :: f :: g :: h :: left
  -- The reader sees two units here, and must find that they are no pair.
  · obtain ⟨e, f, g, h, left, rfl⟩ := followed
    cases second : hexQuad? e f g h with
    | none => simp [readText.eq_3, quad, second, readText_badUnit left second]
    | some low => simp [readText.eq_3, quad, second, notHigh]
  · rw [readText.eq_4 _ _ _ _ _ (by simpa using followed), quad]

theorem readText_pair {a b c d e f g h : Char} {high low : Nat} (rest : List Char)
    (first : hexQuad? a b c d = some high) (second : hexQuad? e f g h = some low)
    (isHigh : isHighSurrogate high = true) (isLow : isLowSurrogate low = true) :
    readText ('\\' :: 'u' :: a :: b :: c :: d :: '\\' :: 'u' :: e :: f :: g :: h :: rest) =
      (readText rest).map fun (cs, left) => (pairedChar high low :: cs, left) := by
  simp [readText.eq_3, first, second, isHigh, isLow]

theorem readText_short {c escaped : Char} (rest : List Char) (notUnit : c ≠ 'u')
    (short : shortEscape? c = some escaped) :
    readText ('\\' :: c :: rest) =
      (readText rest).map fun (cs, left) => (escaped :: cs, left) := by
  rw [readText.eq_5 _ _ (by simp [notUnit]) (by simp [notUnit]), short]

theorem readText_plain {c : Char} (rest : List Char) (notQuote : c ≠ '"')
    (notEscape : c ≠ '\\') (visible : 32 ≤ c.toNat) :
    readText (c :: rest) = (readText rest).map fun (cs, left) => (c :: cs, left) := by
  rw [readText.eq_6 _ _ (by simp [notQuote]) (by simp [notEscape]) (by simp [notEscape])
    (by simp [notEscape])]
  simp [notEscape, Nat.not_lt.mpr visible]

/-! ## Characters and their units -/

theorem char_toNat_valid (c : Char) :
    c.toNat < 0xd800 ∨ 0xdfff < c.toNat ∧ c.toNat < 0x110000 := c.valid

theorem isHighSurrogate_toNat (c : Char) : isHighSurrogate c.toNat = false := by
  have valid := char_toNat_valid c
  simp only [isHighSurrogate, Bool.and_eq_false_iff, decide_eq_false_iff_not]
  omega

theorem unitChar_toNat (c : Char) : unitChar c.toNat = c := by
  have valid := char_toNat_valid c
  have notLow : isLowSurrogate c.toNat = false := by
    simp only [isLowSurrogate, Bool.and_eq_false_iff, decide_eq_false_iff_not]
    omega
  simp [unitChar, isHighSurrogate_toNat, notLow]

theorem pairedChar_toNat {c : Char} (large : 0x10000 ≤ c.toNat) :
    pairedChar (0xd800 + (c.toNat - 0x10000) / 0x400) (0xdc00 + (c.toNat - 0x10000) % 0x400) =
      c := by
  have joined : 0x10000 + (0xd800 + (c.toNat - 0x10000) / 0x400 - 0xd800) * 0x400 +
      (0xdc00 + (c.toNat - 0x10000) % 0x400 - 0xdc00) = c.toNat := by omega
  rw [pairedChar, joined, Char.ofNat_toNat]

/-! ## Texts -/

theorem readText_escapedChar (c : Char) (rest : List Char) :
    readText (escapedChar c ++ rest) =
      (readText rest).map fun (cs, left) => (c :: cs, left) := by
  unfold escapedChar
  split
  next quote => subst quote; exact readText_short rest (by decide) rfl
  split
  next backslash => subst backslash; exact readText_short rest (by decide) rfl
  split
  next feed => subst feed; exact readText_short rest (by decide) rfl
  split
  next ret => subst ret; exact readText_short rest (by decide) rfl
  split
  next tab => subst tab; exact readText_short rest (by decide) rfl
  split
  next back =>
    have is : c = Char.ofNat 8 := by rw [← back, Char.ofNat_toNat]
    subst is; exact readText_short rest (by decide) rfl
  split
  next page =>
    have is : c = Char.ofNat 12 := by rw [← page, Char.ofNat_toNat]
    subst is; exact readText_short rest (by decide) rfl
  split
  next visible =>
    simp only [Bool.and_eq_true, decide_eq_true_eq] at visible
    exact readText_plain rest (by assumption) (by assumption) visible.1
  split
  next small =>
    obtain ⟨x, y, z, w, digits, quad⟩ := hexQuad?_hexDigits small
    simp only [unitEscape, digits, List.cons_append, List.nil_append]
    rw [readText_unit rest quad (isHighSurrogate_toNat c), unitChar_toNat]
  next large =>
    -- Beyond the basic plane a character is written as a pair of units.
    have valid := char_toNat_valid c
    have isHigh : isHighSurrogate (0xd800 + (c.toNat - 0x10000) / 0x400) = true := by
      simp only [isHighSurrogate, Bool.and_eq_true, decide_eq_true_eq]
      omega
    have isLow : isLowSurrogate (0xdc00 + (c.toNat - 0x10000) % 0x400) = true := by
      simp only [isLowSurrogate, Bool.and_eq_true, decide_eq_true_eq]
      omega
    obtain ⟨x, y, z, w, digits, quad⟩ := hexQuad?_hexDigits
      (n := 0xd800 + (c.toNat - 0x10000) / 0x400) (by omega)
    obtain ⟨x', y', z', w', digits', quad'⟩ := hexQuad?_hexDigits
      (n := 0xdc00 + (c.toNat - 0x10000) % 0x400) (by omega)
    simp only [unitEscape, digits, digits', List.cons_append, List.nil_append]
    rw [readText_pair rest quad quad' isHigh isLow, pairedChar_toNat (by omega)]

/-- The characters of a text are read back up to its closing quote. -/
theorem readText_escaped (cs rest : List Char) :
    readText (cs.flatMap escapedChar ++ '"' :: rest) = some (cs, rest) := by
  induction cs with
  | nil => rfl
  | cons c cs inductionHypothesis =>
    rw [List.flatMap_cons, List.append_assoc, readText_escapedChar, inductionHypothesis]
    rfl

end AccessSync.Json
