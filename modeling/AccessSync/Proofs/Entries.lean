import AccessSync.Value.Basic

/-!
# Entries of mappings

What is found under a text key after an entry was set, and after entries were laid over others.
Keys of other kinds may stand between: no such key is the same as a text.
-/

namespace AccessSync

/-! ## Single entries -/

section Entries

variable {key other : String} {k : Key} {value : Value} {entries : List (Key × Value)}

/-- Nothing but a text is known by a text. -/
theorem Key.name_eq_text_iff : k.name = .text key ↔ k = .text key := by
  cases k with
  | float x => cases whole : Decimal.wholeOfBits? x.toBits.toNat <;> simp [name, whole]
  | stamp s => cases instant : s.instant? <;> simp [name, instant]
  | null | bool | int | text => simp [name]

theorem Key.same_iff {other : Key} : k.same other = true ↔ k.name = other.name := by
  unfold same
  split
  · simp [name]
  · exact decide_eq_true_iff

theorem Key.same_text_iff : k.same (.text key) = true ↔ k = .text key :=
  same_iff.trans name_eq_text_iff

theorem Key.text_same_iff : (Key.text key).same k = true ↔ k = .text key :=
  same_iff.trans (eq_comm.trans name_eq_text_iff)

/-- An entry that is set is found under its own key, and nothing else changes. -/
theorem lookup?_setEntry :
    lookup? (.text key) (setEntry k value entries) =
      if k.same (.text key) then some value else lookup? (.text key) entries := by
  induction entries with
  | nil => rfl
  | cons entry entries inductionHypothesis =>
    obtain ⟨first, v⟩ := entry
    by_cases same : first.same k
    -- Nothing but a text is the same as it, so both keys are this one or neither is.
    · have alike : first.same (.text key) = k.same (.text key) := by
        rw [Bool.eq_iff_iff, Key.same_text_iff, Key.same_text_iff]
        constructor
        · rintro rfl
          exact Key.text_same_iff.mp same
        · rintro rfl
          exact Key.same_text_iff.mp same
      simp only [setEntry, same, if_true, lookup?, alike]
      split <;> rfl
    · by_cases found : first.same (.text key)
      · have unlike : k.same (.text key) = false := by
          rw [Key.same_text_iff.mp found] at same
          rw [Bool.eq_false_iff, ne_eq, Key.same_text_iff]
          exact fun isKey => same (Key.text_same_iff.mpr isKey)
        simp [setEntry, same, lookup?, found, unlike]
      · simp only [setEntry, same, Bool.false_eq_true, if_false, lookup?, found,
          inductionHypothesis]

@[simp] theorem lookup?_setEntry_self :
    lookup? (.text key) (setEntry (.text key) value entries) = some value := by
  rw [lookup?_setEntry, if_pos (Key.same_text_iff.mpr rfl)]

theorem lookup?_setEntry_of_ne (different : other ≠ key) :
    lookup? (.text other) (setEntry (.text key) value entries) = lookup? (.text other) entries := by
  rw [lookup?_setEntry, if_neg]
  rw [Key.same_text_iff, Key.text.injEq]
  exact different.symm

end Entries

/-! ## Entries laid over others -/

def Distinct (entries : List (Key × Value)) : Prop :=
  (entries.map Prod.fst).Pairwise fun first later => first.same later = false

section Overlay

variable {k : Key} {value : Value} {entries base overrides : List (Key × Value)}

theorem map_fst_setEntry :
    (setEntry k value entries).map Prod.fst =
      if (entries.map Prod.fst).any (·.same k) then entries.map Prod.fst
      else entries.map Prod.fst ++ [k] := by
  induction entries with
  | nil => rfl
  | cons entry entries inductionHypothesis =>
    obtain ⟨first, v⟩ := entry
    by_cases same : first.same k
    · simp [setEntry, same]
    · simp only [setEntry, same, Bool.false_eq_true, if_false, List.map_cons, inductionHypothesis,
        List.any_cons, Bool.false_or]
      split <;> rfl

theorem Distinct.setEntry (distinct : Distinct entries) :
    Distinct (setEntry k value entries) := by
  rw [Distinct, map_fst_setEntry]
  split
  · exact distinct
  next unlike =>
    rw [Bool.not_eq_true, List.any_eq_false] at unlike
    refine List.pairwise_append.mpr ⟨distinct, List.pairwise_singleton _ _, ?_⟩
    intro first member later single
    rw [List.mem_singleton.mp single]
    exact Bool.eq_false_iff.mpr (unlike first member)

theorem Distinct.overlay (distinct : Distinct base) : Distinct (overlay base overrides) := by
  induction overrides generalizing base with
  | nil => exact distinct
  | cons entry overrides inductionHypothesis => exact inductionHypothesis distinct.setEntry

end Overlay

end AccessSync
