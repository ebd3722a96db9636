import AccessSync.Catalog.Group
import AccessSync.Proofs.Directory.Addresses
import AccessSync.Proofs.Directory.Attempts

/-!
# What a refusal says

That a reference exists already is told from the text of a failure, and this is put together from
the request and from the first five hundred characters of the body of the answer.  Nothing in the
text but these characters can be taken for the sentence.
-/

namespace AccessSync

/-! ## Texts in texts -/

namespace Text

variable {piece before after : List Char}

theorem containsChars_iff {cs : List Char} : containsChars piece cs = true ↔ piece <:+: cs := by
  induction cs with
  | nil => rw [containsChars, List.isEmpty_iff, List.infix_nil]
  | cons c cs inductionHypothesis =>
    rw [containsChars, Bool.or_eq_true, List.isPrefixOf_iff_prefix, inductionHypothesis,
      List.infix_cons_iff]

/-- A text that lacks a character of another one stands on one side of it there. -/
theorem infix_append_cons_iff {x : Char} (apart : x ∉ piece) :
    piece <:+: before ++ x :: after ↔ piece <:+: before ∨ piece <:+: after := by
  constructor
  · intro inside
    obtain early | late | ⟨first, last, rfl, ends, starts⟩ := List.infix_append_iff.mp inside
    · exact .inl early
    · obtain here | late := List.infix_cons_iff.mp late
      · obtain rfl | ⟨rest, rfl, -⟩ := List.prefix_cons_iff.mp here
        · exact .inr List.nil_infix
        · exact absurd List.mem_cons_self apart
      · exact .inr late
    · -- What reaches beyond the character would have to contain it.
      obtain rfl | ⟨rest, rfl, -⟩ := List.prefix_cons_iff.mp starts
      · rw [List.append_nil]
        exact .inl ends.isInfix
      · exact absurd (List.mem_append_right first List.mem_cons_self) apart
  · rintro (early | late)
    · exact early.trans (List.prefix_append before _).isInfix
    · exact late.trans ((List.suffix_cons x after).trans (List.suffix_append before _)).isInfix

end Text

namespace Directory

/-- No address has a blank in it. -/
theorem blank_not_mem_url {segments : List String} {parameters : List (String × String)}
    {beta : Bool} : ' ' ∉ (url segments parameters beta).toList := by
  intro member
  obtain allowed | ⟨-, same⟩ := allowed_url member
  · exact absurd allowed (by decide)
  · exact absurd same (by decide)

end Directory

/-! ## The sentence in a failure -/

namespace Catalog.Group

/-- Before the colon there are too few blanks for the sentence, and after it there is the part of
the body that is kept. -/
theorem contains_refusal_iff {method url : String} (word : ' ' ∉ method.toList)
    (address : ' ' ∉ url.toList) (detail : String) :
    Text.contains alreadyExists (s!"{method} {url} failed with {(400 : Int)}: " ++ detail) = true ↔
      Text.contains alreadyExists detail = true := by
  have parts : (s!"{method} {url} failed with {(400 : Int)}: " ++ detail).toList =
      (method.toList ++ ' ' :: url.toList ++ " failed ".toList ++ 'w' :: "ith 400".toList) ++
        ':' :: ' ' :: detail.toList := by
    change (method ++ " " ++ url ++ " failed with " ++ "400" ++ ": " ++ detail).toList = _
    simp
  have blanks : ¬ alreadyExists.toList <:+:
      method.toList ++ ' ' :: url.toList ++ " failed ".toList := by
    intro inside
    have few := inside.sublist.count_le ' '
    rw [List.count_append, List.count_append, List.count_cons_self, List.count_eq_zero.mpr word,
      List.count_eq_zero.mpr address] at few
    have many : alreadyExists.toList.count ' ' = 4 := by decide
    have two : " failed ".toList.count ' ' = 2 := by decide
    omega
  have status : ¬ alreadyExists.toList <:+: "ith 400".toList :=
    fun inside => absurd inside.length_le (by decide)
  have start : ¬ alreadyExists.toList <+: ' ' :: detail.toList := by
    have first : alreadyExists.toList = 'a' :: alreadyExists.toList.tail := by decide
    rw [first, List.cons_prefix_cons]
    exact fun starts => absurd starts.1 (by decide)
  rw [Text.contains, Text.contains, Text.containsChars_iff, Text.containsChars_iff, parts,
    Text.infix_append_cons_iff (by decide), Text.infix_append_cons_iff (by decide),
    List.infix_cons_iff]
  simp only [blanks, status, start, false_or]

end Catalog.Group

end AccessSync
