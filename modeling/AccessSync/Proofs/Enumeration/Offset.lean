import AccessSync.Proofs.Enumeration.Marker
import Mathlib.Data.List.Duplicate

/-!
# Records from any offset on

The marker of a list in memory is any text that stands for a whole number, also for one that the
list never gave out.  From an offset beyond the list there is nothing, from one within the list the
rest of it, and a negative offset counts from the end, page by page, until the pages arrive at the
front of the list.
-/

namespace AccessSync

/-! ## How far off an offset can be -/

theorem lt_ten_of_digitValue? {c : Char} {digit : Nat} (value : Text.digitValue? c = some digit) :
    digit < 10 := by
  obtain ⟨first, found, rfl⟩ := Option.map_eq_some_iff.mp value
  have within := List.find?_some found
  simp only [Bool.and_eq_true, decide_eq_true_eq] at within
  omega

theorem lt_ten_of_digitRun {before digits : List Nat} {cs : List Char}
    (run : digitRun before cs = some digits) (small : ∀ d ∈ before, d < 10) :
    ∀ d ∈ digits, d < 10 := by
  fun_induction digitRun before cs with
  | case1 before =>
    cases run
    simpa using small
  | case2 before c rest digit value inductionHypothesis =>
    exact inductionHypothesis run
      (List.forall_mem_cons.mpr ⟨lt_ten_of_digitValue? value, small⟩)
  | case3 => cases run
  | case4 before c rest _ digit value inductionHypothesis =>
    exact inductionHypothesis run
      (List.forall_mem_cons.mpr ⟨lt_ten_of_digitValue? value, small⟩)
  | case5 => cases run

theorem digitsToNat_lt {digits : List Nat} (small : ∀ d ∈ digits, d < 10) (start : Nat) :
    Text.digitsToNat start digits < (start + 1) * 10 ^ digits.length := by
  induction digits generalizing start with
  | nil => simp [Text.digitsToNat]
  | cons digit digits inductionHypothesis =>
    obtain ⟨first, others⟩ := List.forall_mem_cons.mp small
    calc Text.digitsToNat start (digit :: digits)
      _ = Text.digitsToNat (10 * start + digit) digits := rfl
      _ < (10 * start + digit + 1) * 10 ^ digits.length := inductionHypothesis others _
      _ ≤ (10 * (start + 1)) * 10 ^ digits.length := Nat.mul_le_mul_right _ (by omega)
      _ = (start + 1) * 10 ^ (digit :: digits).length := by
        rw [List.length_cons, Nat.pow_succ', Nat.mul_comm 10, Nat.mul_assoc]

/-- A text does not stand for a number that is too long to be written. -/
theorem natAbs_lt_of_integerOfText? {text : String} {n : Int}
    (read : integerOfText? text = some n) : n.natAbs < 10 ^ maxWrittenDigits := by
  simp only [integerOfText?, integerOfChars?] at read
  split at read
  next => cases read
  next digits run =>
    split at read
    next => cases read
    next few =>
      have small : ∀ d ∈ digits, d < 10 := by
        unfold digitRun? at run
        split at run
        next => cases run
        next c rest _ =>
          split at run
          next digit value =>
            exact lt_ten_of_digitRun run (by simpa using lt_ten_of_digitValue? value)
          next => cases run
      have bounded := digitsToNat_lt small 0
      have shorter : 10 ^ digits.length ≤ 10 ^ maxWrittenDigits :=
        Nat.pow_le_pow_right (by decide) (Nat.not_lt.mp few)
      cases read
      split <;> omega

namespace Connector

variable {ρ : Type} {records : List ρ} {size : Nat} {offset : Int}

theorem natAbs_lt_of_offsetOf? {token : Option String} (starts : offsetOf? token = some offset) :
    offset.natAbs < 10 ^ maxWrittenDigits := by
  unfold offsetOf? at starts
  split at starts
  next =>
    cases starts
    exact Nat.pow_pos (by decide)
  next => exact natAbs_lt_of_integerOfText? starts

/-! ## What the pages come to -/

/-- What the pages of a list come to from an offset on.  When they count from the end of a list
that is longer than a page, they go on up to where a page would pass the end, and then take the list
from the front. -/
def delivered (records : List ρ) (size : Nat) (offset : Int) : List ρ :=
  if 0 ≤ offset ∨ records.length ≤ size then records.drop (clamp records.length offset)
  else
    let landing := (offset % size).toNat
    (records.take (records.length + landing - size)).drop (clamp records.length offset) ++
      records.drop landing

theorem clamp_le (length : Nat) (bound : Int) : clamp length bound ≤ length := by
  unfold clamp
  split <;> omega

theorem clamp_of_nonneg {length : Nat} {bound : Int} (nonnegative : 0 ≤ bound) :
    clamp length bound = min bound.toNat length := by
  rw [clamp, if_neg (by omega)]

theorem clamp_of_neg {length : Nat} {bound : Int} (negative : bound < 0) :
    clamp length bound = (bound + length).toNat := by
  rw [clamp, if_pos negative]

/-- Two neighbouring pieces of a list are one piece. -/
theorem drop_take_append (records : List ρ) {first middle last : Nat} (ordered : first ≤ middle)
    (ordered' : middle ≤ last) :
    (records.take middle).drop first ++ (records.take last).drop middle =
      (records.take last).drop first := by
  have shorter : records.take middle = (records.take last).take middle := by
    rw [List.take_take, Nat.min_eq_left ordered']
  have rest : (records.take last).drop middle =
      ((records.take last).drop first).drop (middle - first) := by
    rw [List.drop_drop, Nat.add_sub_cancel' ordered]
  rw [shorter, List.drop_take, rest, List.take_append_drop]

theorem range_eq_drop_take (records : List ρ) (first last : Int) :
    range records first last =
      (records.take (clamp records.length last)).drop (clamp records.length first) := by
  rw [range, List.drop_take]

/-- Pages that do not turn from the end of the list to its front take neighbouring pieces of it. -/
theorem range_append_drop {last : Int} (ordered : clamp records.length offset ≤
      clamp records.length last) :
    range records offset last ++ records.drop (clamp records.length last) =
      records.drop (clamp records.length offset) := by
  have joined := drop_take_append records ordered (clamp_le records.length last)
  rwa [List.take_length, ← range_eq_drop_take] at joined

theorem delivered_of_offset (front : 0 ≤ offset ∨ records.length ≤ size) :
    delivered records size offset = records.drop (clamp records.length offset) := by
  rw [delivered, if_pos front]

theorem delivered_of_turn {landing : Nat} (negative : offset < 0) (long : size < records.length)
    (lands : offset % size = landing) :
    delivered records size offset =
      (records.take (records.length + landing - size)).drop (clamp records.length offset) ++
        records.drop landing := by
  rw [delivered, if_neg (by omega), lands]
  rfl

theorem drop_take_of_le {first last : Nat} (ordered : last ≤ first) :
    (records.take last).drop first = [] :=
  List.drop_of_length_le (by rw [List.length_take]; omega)

/-- A negative offset is at least a page below the offset that its pages arrive at. -/
theorem le_emod_sub (positive : 0 < size) (negative : offset < 0) :
    offset ≤ offset % size - size := by
  have turned : offset / size ≤ -1 := by
    have below := Int.ediv_neg_of_neg_of_pos negative (b := size) (by omega)
    omega
  have pages : size * (offset / size) ≤ size * (-1) :=
    Int.mul_le_mul_of_nonneg_left turned (by omega)
  have parts := Int.mul_ediv_add_emod offset size
  omega

/-- The first of several pages from an offset on, and those from the offset after it on. -/
theorem delivered_of_next (positive : 0 < size) (more : offset + size < records.length) :
    delivered records size offset =
      range records offset (offset + size) ++ delivered records size (offset + size) := by
  -- Pages from a negative offset on count from the end of the list, until they reach its start and
  -- the list begins anew.
  by_cases front : 0 ≤ offset ∨ records.length ≤ size
  · have ordered : clamp records.length offset ≤ clamp records.length (offset + size) := by
      unfold clamp
      split <;> split <;> omega
    rw [delivered_of_offset front, delivered_of_offset (by omega), range_append_drop ordered]
  · obtain ⟨negative, long⟩ : offset < 0 ∧ size < records.length := by omega
    obtain ⟨landing, lands⟩ : ∃ landing : Nat, offset % size = landing :=
      Int.eq_ofNat_of_zero_le (Int.emod_nonneg _ (by omega))
    have within : landing < size := by
      have bounded := Int.emod_lt_of_pos offset (b := size) (by omega)
      omega
    rw [delivered_of_turn negative long lands, range_eq_drop_take]
    by_cases turns : 0 ≤ offset + size
    · -- The page passes the end of the list and has nothing.
      have here : offset + size = landing := by
        rw [← lands, ← Int.add_emod_right, Int.emod_eq_of_lt turns (by omega)]
      have first : clamp records.length offset = records.length + landing - size := by
        rw [clamp_of_neg negative]
        omega
      have last : clamp records.length landing = landing := by
        rw [clamp_of_nonneg (by omega)]
        omega
      have front' : 0 ≤ (landing : Int) ∨ records.length ≤ size := .inl (by omega)
      rw [here, first, last, delivered_of_offset front', last, drop_take_of_le (Nat.le_refl _),
        drop_take_of_le (by omega)]
    · have again : (offset + size) % size = landing := by rw [Int.add_emod_right, lands]
      have ordered : clamp records.length offset ≤ clamp records.length (offset + size) := by
        rw [clamp_of_neg negative, clamp_of_neg (by omega)]
        omega
      have ordered' : clamp records.length (offset + size) ≤ records.length + landing - size := by
        rw [clamp_of_neg (by omega)]
        have below : offset + size ≤ (offset + size) % size - size :=
          le_emod_sub positive (by omega)
        omega
      rw [delivered_of_turn (by omega) long again, ← List.append_assoc,
        drop_take_append _ ordered ordered']

/-- The last page from an offset on. -/
theorem delivered_of_last (last : records.length ≤ offset + size) :
    delivered records size offset = range records offset (offset + size) := by
  have front : 0 ≤ offset ∨ records.length ≤ size := by omega
  have full : clamp records.length (offset + size) = records.length := by
    rw [clamp_of_nonneg (by omega)]
    omega
  rw [delivered_of_offset front, range_eq_drop_take, full, List.take_length]

/-! ## What is left out and what comes twice -/

theorem delivered_zero (records : List ρ) (size : Nat) : delivered records size 0 = records := by
  rw [delivered_of_offset (.inl (by decide)), clamp_of_nonneg (by decide)]
  simp

/-- From an offset that is at most a page before the front, the pages come to the rest of the
list. -/
theorem delivered_suffix (near : -size ≤ offset ∨ records.length ≤ size) :
    delivered records size offset <:+ records := by
  by_cases front : 0 ≤ offset ∨ records.length ≤ size
  · rw [delivered_of_offset front]
    exact List.drop_suffix _ _
  · obtain ⟨landing, lands⟩ : ∃ landing : Nat, offset + size = landing :=
      Int.eq_ofNat_of_zero_le (by omega)
    have arrives : offset % size = landing := by
      rw [← lands, ← Int.add_emod_right, Int.emod_eq_of_lt (by omega) (by omega)]
    have first : clamp records.length offset = records.length + landing - size := by
      rw [clamp_of_neg (by omega)]
      omega
    rw [delivered_of_turn (by omega) (by omega) arrives, first, drop_take_of_le (Nat.le_refl _)]
    exact List.drop_suffix _ _

theorem getElem_mem_piece {first index last : Nat} (within : index < records.length)
    (after : first ≤ index) (before : index < last) :
    records[index] ∈ (records.take last).drop first := by
  refine List.mem_iff_getElem?.mpr ⟨index - first, ?_⟩
  rw [List.getElem?_drop, Nat.add_sub_cancel' after, List.getElem?_take_of_lt before,
    List.getElem?_eq_getElem within]

/-- From an offset further before the front, a record comes at the end of the list and again when
the pages take the list from the front. -/
theorem exists_duplicate_delivered (positive : 0 < size) (far : offset < -size)
    (long : size < records.length) :
    ∃ record, List.Duplicate record (delivered records size offset) := by
  obtain ⟨landing, lands⟩ : ∃ landing : Nat, offset % size = landing :=
    Int.eq_ofNat_of_zero_le (Int.emod_nonneg _ (by omega))
  have below : offset + size ≤ (offset + size) % size - size := le_emod_sub positive (by omega)
  rw [Int.add_emod_right, lands] at below
  have first : clamp records.length offset < records.length + landing - size := by
    rw [clamp_of_neg (by omega)]
    omega
  have within : landing < size := by
    have bounded := Int.emod_lt_of_pos offset (b := size) (by omega)
    omega
  have last : records.length + landing - size - 1 < records.length := by omega
  have before : records[records.length + landing - size - 1] ∈
      (records.take (records.length + landing - size)).drop (clamp records.length offset) :=
    getElem_mem_piece last (by omega) (by omega)
  have again : records[records.length + landing - size - 1] ∈ records.drop landing := by
    have piece : _ ∈ (records.take records.length).drop landing :=
      getElem_mem_piece last (by omega) last
    rwa [List.take_length] at piece
  rw [delivered_of_turn (by omega) long lands]
  exact ⟨_, List.duplicate_iff_sublist.mpr
    ((List.singleton_sublist.mpr before).append (List.singleton_sublist.mpr again))⟩

end Connector
end AccessSync
