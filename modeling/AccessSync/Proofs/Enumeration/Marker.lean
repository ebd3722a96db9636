import AccessSync.Connector
import AccessSync.Proofs.Enumeration.Agreement
import AccessSync.Proofs.Json.RoundTrip
import Mathlib.Algebra.Group.Nat.Defs

/-!
# Enumerations from memory

A phase over a list in memory hands out the offset of its next page as a token and reads it back
from there.  The pages of a list make one finite chain, whatever their size, and nothing of the list
is left out or repeated.
-/

namespace AccessSync

/-! ## Offsets read back -/

theorem digitValue?_of_isDigit {c : Char} (digit : c.isDigit = true) :
    Text.digitValue? c = some (c.toNat - 48) := by
  simp only [Char.isDigit, Bool.and_eq_true, decide_eq_true_eq] at digit
  have least : 48 ≤ c.toNat := digit.1
  have most : c.toNat ≤ 57 := digit.2
  simp [Text.digitValue?, Text.digitZeros, least, most]

theorem isNumberBlank_of_isDigit {c : Char} (digit : c.isDigit = true) :
    Text.isNumberBlank c = false := by
  simp only [Char.isDigit, Bool.and_eq_true, decide_eq_true_eq] at digit
  have least : 48 ≤ c.toNat := digit.1
  have most : c.toNat ≤ 57 := digit.2
  simp only [Text.isNumberBlank, Text.isBlank]
  grind

theorem trimChars_of_all {blank : Char → Bool} {cs : List Char}
    (visible : ∀ c ∈ cs, blank c = false) : Text.trimChars blank cs = cs := by
  have kept (list : List Char) (clear : ∀ c ∈ list, blank c = false) :
      list.dropWhile blank = list := by
    cases list with
    | nil => rfl
    | cons c list => simp [clear c List.mem_cons_self]
  rw [Text.trimChars, kept cs visible, kept cs.reverse (by simpa using visible),
    List.reverse_reverse]

theorem digitRun_digits {cs : List Char} (digits : ∀ c ∈ cs, c.isDigit = true) (before : List Nat) :
    digitRun before cs = some (before.reverse ++ cs.map (·.toNat - 48)) := by
  induction cs generalizing before with
  | nil => simp [digitRun]
  | cons c cs inductionHypothesis =>
    have digit := digits c List.mem_cons_self
    have others := inductionHypothesis fun d member => digits d (List.mem_cons_of_mem c member)
    have value := digitValue?_of_isDigit digit
    have notUnderscore : c ≠ '_' := Json.ne_of_isDigit digit rfl
    unfold digitRun
    split
    next empty => cases empty
    next same =>
      cases same
      exact absurd rfl notUnderscore
    next same =>
      cases same
      simp [value, others]

theorem integerOfChars?_digits {digits : List Char} (plain : ∀ c ∈ digits, c.isDigit = true)
    (nonempty : digits ≠ []) (few : digits.length ≤ maxWrittenDigits) (negative : Bool) :
    integerOfChars? (if negative then '-' :: digits else digits) =
      some (if negative then -(Text.digitsToNat 0 (digits.map (·.toNat - 48)) : Int)
        else Text.digitsToNat 0 (digits.map (·.toNat - 48))) := by
  obtain ⟨c, cs, rfl⟩ := List.exists_cons_of_ne_nil nonempty
  have digit := plain c List.mem_cons_self
  have unsigned : c ≠ '-' ∧ c ≠ '+' :=
    ⟨Json.ne_of_isDigit digit rfl, Json.ne_of_isDigit digit rfl⟩
  have run : digitRun? (c :: cs) = some ((c :: cs).map (·.toNat - 48)) := by
    rw [digitRun?, digitValue?_of_isDigit digit]
    exact digitRun_digits (fun d member => plain d (List.mem_cons_of_mem c member)) _
  have visible : ∀ d ∈ (if negative then '-' :: c :: cs else c :: cs),
      Text.isNumberBlank d = false := by
    intro d member
    cases negative with
    | false => exact isNumberBlank_of_isDigit (plain d member)
    | true =>
      obtain rfl | member := List.mem_cons.mp member
      · decide
      · exact isNumberBlank_of_isDigit (plain d member)
  have signed : splitSign (if negative then '-' :: c :: cs else c :: cs) = (negative, c :: cs) := by
    cases negative with
    | false => simp [splitSign, unsigned.1, unsigned.2]
    | true => rfl
  rw [integerOfChars?, trimChars_of_all visible]
  simp only [signed, run, List.length_map, Nat.not_lt.mpr few, if_false]

/-- An offset that is not too long for a number reads back from its text. -/
theorem integerOfText?_toString {n : Int} (short : n.natAbs < 10 ^ maxWrittenDigits) :
    integerOfText? (toString n) = some n := by
  have written : (toString n).toList =
      if n < 0 then '-' :: Nat.toDigits 10 n.natAbs else Nat.toDigits 10 n.natAbs := by
    rw [Int.toString_eq_repr, Int.repr_eq_if]
    split
    next nonnegative =>
      have size : n.toNat = n.natAbs := by omega
      rw [if_neg (by omega), Nat.toList_repr, size]
    next negative =>
      have size : (-n).toNat = n.natAbs := by omega
      rw [if_pos (by omega), String.toList_append, Nat.toList_repr, size]
      rfl
  have digits : ∀ c ∈ Nat.toDigits 10 n.natAbs, c.isDigit = true := fun c member =>
    Nat.isDigit_of_mem_toDigits (by decide) (by decide) member
  have few : (Nat.toDigits 10 n.natAbs).length ≤ maxWrittenDigits :=
    (Nat.length_toDigits_le_iff (by decide) (by decide)).mpr short
  have read := integerOfChars?_digits digits Nat.toDigits_ne_nil few (decide (n < 0))
  simp only [decide_eq_true_eq, Json.digitsToNat_toDigits] at read
  have value : (if n < 0 then -(n.natAbs : Int) else n.natAbs) = n := by
    split <;> omega
  rw [integerOfText?, written, read, value]

namespace Connector

open Enumeration

variable {ρ ι : Type}

theorem toString_ne_empty (n : Int) : toString n ≠ "" := by
  obtain ⟨c, cs, written, -⟩ := Json.toString_cons n
  intro empty
  rw [empty] at written
  cases written

theorem offsetOf?_toString {n : Int} (short : n.natAbs < 10 ^ maxWrittenDigits) :
    offsetOf? (some (toString n)) = some n := by
  have nonempty : (toString n).isEmpty = false := by
    rw [Bool.eq_false_iff, ne_eq, String.isEmpty_iff]
    exact toString_ne_empty n
  have marker : (some (toString n)).filter (!·.isEmpty) = some (toString n) := by
    rw [Option.filter_some, nonempty]
    rfl
  rw [offsetOf?, marker]
  exact integerOfText?_toString short

/-! ## Pages of a list -/

theorem range_eq (records : List ρ) (offset size : Nat) :
    range records offset (offset + size : Int) = (records.drop offset).take size := by
  simp only [range, clamp]
  have first : ¬ (offset : Int) < 0 := by omega
  have last : ¬ ((offset : Int) + size) < 0 := by omega
  rw [if_neg first, if_neg last]
  have bounds : ((offset : Int) + size).toNat = offset + size := by omega
  rw [bounds, Int.toNat_natCast]
  by_cases within : offset ≤ records.length
  · rw [Nat.min_eq_left within]
    by_cases full : offset + size ≤ records.length
    · rw [Nat.min_eq_left full, Nat.add_sub_cancel_left]
    · have rest : (records.drop offset).length ≤ records.length - offset := by simp
      rw [Nat.min_eq_right (by omega), List.take_of_length_le rest,
        List.take_of_length_le (by simp; omega)]
  · rw [Nat.min_eq_right (by omega), List.drop_of_length_le (by omega),
      List.drop_of_length_le (by omega)]
    simp

/-- What there is to find for a phase over a list in memory. -/
structure Paged {tag : String} {size : Int} {loadAll : Act (List ρ)}
    {translate : List ρ → Act (List ι)}
    (upstream : Upstream (markerPhase tag size loadAll translate)) (records : List ρ)
    (itemsOf : ρ → List ι) : Prop where
  page : ∀ token offset, offsetOf? token = some offset →
    upstream.page token = .ok (pageAt records size offset)
  items : ∀ some, some ⊆ records → upstream.items some = .ok (some.flatMap itemsOf)

theorem not_short_markerPhase (paging : Paging) (page : Page ρ) (tag : String) (size : Int)
    (loadAll : Act (List ρ)) (translate : List ρ → Act (List ι)) :
    ¬ @Short _ _ (markerPhase tag size loadAll translate) paging page := by
  rintro ⟨-, never, -⟩
  cases never

/-- The pages of a list from an offset on are a chain of no more pages than there are records. -/
theorem chain_markerPhase {tag : String} {size : Nat} {loadAll : Act (List ρ)}
    {translate : List ρ → Act (List ι)}
    {upstream : Upstream (markerPhase tag size loadAll translate)} {records : List ρ}
    {itemsOf : ρ → List ι} (paged : Paged upstream records itemsOf) (positive : 0 < size)
    (short : records.length ≤ 10 ^ maxWrittenDigits) (paging : Paging) {offset : Nat}
    {token : Option String} (starts : offsetOf? token = some (offset : Int)) :
    ∃ tokens, Chain paging upstream token tokens ((records.drop offset).flatMap itemsOf) ∧
      tokens.length ≤ max 1 (records.length - offset) := by
  -- On the number of records that are left at the offset.
  induction left : records.length - offset using Nat.strongRecOn generalizing offset token with
  | ind left inductionHypothesis =>
    have read := Reads.found (paged.page token offset starts)
    have long := not_short_markerPhase paging (pageAt records size offset) tag size loadAll translate
    have here : (pageAt records size offset).records = (records.drop offset).take size :=
      range_eq records offset size
    have translated := paged.items (pageAt records size offset).records fun record member =>
      List.mem_of_mem_drop (List.mem_of_mem_take (here ▸ member))
    by_cases more : offset + size < records.length
    · have offered : (pageAt records size offset).next =
          some (toString ((offset + size : Nat) : Int)) := by
        simp only [pageAt]
        rw [if_pos (by omega)]
        rfl
      have readable : offsetOf? (some (toString ((offset + size : Nat) : Int))) =
          some ((offset + size : Nat) : Int) := offsetOf?_toString (by omega)
      have nonempty := toString_ne_empty ((offset + size : Nat) : Int)
      obtain ⟨tokens, chain, few⟩ :=
        inductionHypothesis (records.length - (offset + size)) (by omega) readable rfl
      refine ⟨token :: tokens, ?_, ?_⟩
      · have split : (records.drop offset).flatMap itemsOf =
            ((records.drop offset).take size).flatMap itemsOf ++
              (records.drop (offset + size)).flatMap itemsOf := by
          rw [← List.flatMap_append, ← List.drop_drop, List.take_append_drop]
        rw [split, ← here]
        exact .next (.next read translated offered nonempty long) chain
      · simp only [List.length_cons]
        omega
    · have last : (pageAt records size offset).next = none := by
        simp only [pageAt]
        rw [if_neg (by omega)]
      have whole : (records.drop offset).take size = records.drop offset :=
        List.take_of_length_le (by rw [List.length_drop]; omega)
      refine ⟨[token], ?_, Nat.le_max_left 1 _⟩
      rw [← whole, ← here]
      exact .last (.last read translated (.inl last))

end Connector

end AccessSync
