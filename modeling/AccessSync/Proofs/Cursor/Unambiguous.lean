import AccessSync.Proofs.Cursor.RoundTrip
import AccessSync.Proofs.Json.Ascii

/-!
# Cursors are told apart by their texts

A cursor travels as a text, and whoever compares two texts compares the cursors.  This holds of
every stack, also of one with an empty tag, which `Cursor.decode` refuses: the reader of documents
gives the document back all the same, and the document shows the whole stack.
-/

namespace AccessSync.Cursor

/-! ## Documents show the stack -/

theorem ofText?_inj {s t : Option String} : Value.ofText? s = Value.ofText? t ↔ s = t := by
  cases s <;> cases t <;> simp [Value.ofText?]

theorem positionValue_inj {p q : Position} : positionValue p = positionValue q ↔ p = q := by
  obtain ⟨tag, token, id⟩ := p
  obtain ⟨otherTag, otherToken, otherId⟩ := q
  simp [positionValue, Value.record, ofText?_inj]

theorem document_inj {c d : Cursor} : c.document = d.document ↔ c = d := by
  constructor
  · intro same
    obtain ⟨positions⟩ := c
    obtain ⟨others⟩ := d
    simp only [document, Value.record, List.map_cons, List.map_nil, Value.mapping.injEq,
      List.cons.injEq, Prod.mk.injEq, Value.list.injEq, and_true, true_and] at same
    have listed : positions.reverse = others.reverse :=
      (List.map_inj_right fun _ _ => positionValue_inj.mp).mp same
    rw [List.reverse_inj.mp listed]
  · rintro rfl
    rfl

/-! ## Texts -/

theorem encode_empty : empty.encode = "" := rfl

/-- Only the empty stack has the empty text. -/
theorem encode_eq_empty_iff {c : Cursor} : c.encode = "" ↔ c = empty := by
  constructor
  · intro none
    by_cases nonempty : c.positions = []
    · cases c with
      | mk positions => exact congrArg Cursor.mk nonempty
    · have some := isEmpty_encode nonempty
      rw [none] at some
      cases some
  · rintro rfl
    exact encode_empty

theorem encode_inj {c d : Cursor} : c.encode = d.encode ↔ c = d := by
  constructor
  · intro same
    -- The empty stack has no document, so it is set apart by its text.
    by_cases work : c.positions = []
    · have none : c = empty := congrArg Cursor.mk work
      rw [none, encode_empty] at same
      rw [none, encode_eq_empty_iff.mp same.symm]
    · by_cases otherWork : d.positions = []
      · have none : d = empty := congrArg Cursor.mk otherWork
        rw [none, encode_empty] at same
        rw [none, encode_eq_empty_iff.mp same]
      · rw [encode_of_nonempty work, encode_of_nonempty otherWork] at same
        exact document_inj.mp
          (Json.compact_inj (restorable_document c) (restorable_document d) same)
  · rintro rfl
    rfl

theorem printable_encode (c : Cursor) : ∀ ch ∈ c.encode.toList, Json.PrintableAscii ch := by
  by_cases nonempty : c.positions = []
  · have none : c = empty := congrArg Cursor.mk nonempty
    rw [none, encode_empty]
    simp
  · rw [encode_of_nonempty nonempty]
    exact Json.printable_compact (restorable_document c)

/-- Two cursors have the same text only if they are the same, the empty text is that of the empty
stack alone, and every text consists of printable ASCII characters. -/
theorem encode_unambiguous (c d : Cursor) :
    (c.encode = d.encode ↔ c = d) ∧ (c.encode = "" ↔ c.positions = []) ∧
      ∀ ch ∈ c.encode.toList, 0x20 ≤ ch.toNat ∧ ch.toNat ≤ 0x7e := by
  refine ⟨encode_inj, ?_, printable_encode c⟩
  rw [encode_eq_empty_iff]
  exact ⟨congrArg positions, congrArg Cursor.mk⟩

end AccessSync.Cursor
