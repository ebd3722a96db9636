import AccessSync.Cursor.Basic
import AccessSync.Proofs.Json.RoundTrip
import AccessSync.Proofs.Returns

/-!
# Cursors are read back from their texts

`Cursor.decode` refuses a position without a tag, which `Cursor.push` accepts.  What keeps a cursor
readable is therefore that each of its positions has a tag (`Cursor.Tagged`): the empty cursor and
every decoded one start out that way, and the operations on the stack keep it when they push only
tagged positions.
-/

namespace AccessSync.Cursor

def Tagged (c : Cursor) : Prop := ∀ p ∈ c.positions, p.tag ≠ ""

/-! ## A tagged cursor is read back

The document of a cursor is in the class that the reader restores, so what is left is that
`ofDocument` undoes the arrangement of the document: the order of the stack, and the fields of a
position. -/

theorem optionalText_ofText? {entry : Value} {field : String} {text : Option String}
    (holds : entry.field field = .ok (.ofText? text)) :
    optionalText entry field = .ok text := by
  cases text <;> simp [optionalText, holds, Value.ofText?]

theorem positionOf_positionValue {p : Position} (tagged : p.tag ≠ "") :
    positionOf (positionValue p) = .ok p := by
  have tag : (positionValue p).field "tag" = .ok (.text p.tag) := rfl
  have token : optionalText (positionValue p) "token" = .ok p.token :=
    optionalText_ofText? rfl
  have id : optionalText (positionValue p) "id" = .ok p.id := optionalText_ofText? rfl
  have notEmpty : p.tag.isEmpty = false := by simpa using tagged
  rw [positionOf.eq_def, tag, token, id]
  simp only [positionValue, Value.record, notEmpty]
  rfl

theorem mapM_positionOf {positions : List Position} (tagged : ∀ p ∈ positions, p.tag ≠ "") :
    (positions.map positionValue).mapM positionOf = Except.ok positions := by
  induction positions with
  | nil => rfl
  | cons p positions inductionHypothesis =>
    have here := positionOf_positionValue (tagged p List.mem_cons_self)
    have others := inductionHypothesis fun q member => tagged q (List.mem_cons_of_mem p member)
    simp only [List.map_cons, List.mapM_cons, here, others]
    rfl

def document (c : Cursor) : Value :=
  .record [("v", .int version), ("phases", .list (c.positions.reverse.map positionValue))]

theorem ofDocument_document {c : Cursor} (tagged : c.Tagged) : ofDocument c.document = .ok c := by
  have positions : (c.positions.reverse.map positionValue).mapM positionOf =
      Except.ok c.positions.reverse :=
    mapM_positionOf fun p member => tagged p (List.mem_reverse.mp member)
  have supported : isVersion (.int version) = true := rfl
  have phases : lookup? "phases" [(.text "v", .int version),
      (.text "phases", .list (c.positions.reverse.map positionValue))] =
      some (.list (c.positions.reverse.map positionValue)) := rfl
  simp only [ofDocument, document, Value.record, List.map_cons, List.map_nil, phases, positions]
  simp [lookup?, Key.same, supported, bind, Except.bind, pure, Except.pure]

theorem restorable_positionValue (p : Position) : Json.Restorable (positionValue p) := by
  have optional (text : Option String) : Json.Restorable (.ofText? text) := by
    cases text with
    | none => exact .null
    | some s => exact .text s
  refine .record _ (by simp) fun field member => ?_
  simp only [List.mem_cons, List.not_mem_nil, or_false] at member
  obtain rfl | rfl | rfl := member
  · exact .text p.tag
  · exact optional p.token
  · exact optional p.id

theorem restorable_document (c : Cursor) : Json.Restorable c.document := by
  refine .record _ (by simp) fun field member => ?_
  simp only [List.mem_cons, List.not_mem_nil, or_false] at member
  obtain rfl | rfl := member
  · exact .int version (by decide)
  · refine .list _ fun entry listed => ?_
    obtain ⟨p, -, rfl⟩ := List.mem_map.mp listed
    exact restorable_positionValue p

theorem encode_of_nonempty {c : Cursor} (nonempty : c.positions ≠ []) :
    c.encode = Json.compact c.document := by
  simp [encode, document, isEmpty, nonempty]

theorem isEmpty_encode {c : Cursor} (nonempty : c.positions ≠ []) : c.encode.isEmpty = false := by
  obtain ⟨first, others, chars, -, -⟩ := Json.inlineChars_cons (restorable_document c)
  simp [encode_of_nonempty nonempty, Json.compact, chars]

/-- A cursor whose positions all have tags is read back from its text. -/
theorem decode_encode {c : Cursor} (tagged : c.Tagged) : decode c.encode = .ok c := by
  -- The empty cursor has no document: its text is the empty one.
  by_cases nonempty : c.positions = []
  · cases c with
    | mk positions =>
      cases nonempty
      rfl
  · have read := Json.parse?_compact (restorable_document c)
    have some : c.encode.isEmpty = false := isEmpty_encode nonempty
    rw [encode_of_nonempty nonempty] at some ⊢
    simp only [decode, some, read]
    exact ofDocument_document tagged

/-! ## The operations keep cursors tagged -/

theorem tagged_empty : empty.Tagged := by
  simp [Tagged, empty]

theorem tagged_of_positionOf {entry : Value} {p : Position} (read : positionOf entry = .ok p) :
    p.tag ≠ "" := by
  cases entry with
  | mapping entries =>
    simp only [positionOf] at read
    split at read
    next =>
      split at read
      next => cases read
      next notEmpty =>
        obtain ⟨_, tag, read⟩ := exists_of_bind_eq_ok read
        obtain ⟨token, -, read⟩ := exists_of_bind_eq_ok read
        obtain ⟨id, -, read⟩ := exists_of_bind_eq_ok read
        cases tag
        cases read
        simpa using notEmpty
    next => cases read
  | _ => cases read

theorem tagged_of_ofDocument {document : Value} {c : Cursor} (read : ofDocument document = .ok c) :
    c.Tagged := by
  unfold ofDocument at read
  split at read
  next entries =>
    simp only at read
    split at read
    next => cases read
    next =>
      split at read
      next items _ =>
        obtain ⟨positions, listed, read⟩ := exists_of_bind_eq_ok read
        cases read
        exact fun p member => forall_of_mapM (fun _ _ => tagged_of_positionOf) listed p
          (List.mem_reverse.mp member)
      next => cases read
  next => cases read

/-- A cursor that was read from a text has tags only. -/
theorem tagged_of_decode {s : String} {c : Cursor} (read : decode s = .ok c) : c.Tagged := by
  unfold decode at read
  split at read
  next =>
    cases read
    exact tagged_empty
  next =>
    split at read
    next document _ => exact tagged_of_ofDocument read
    next => cases read

inductive Edit where
  | push (p : Position)
  | replace (token : Option String)
  | pop
  | copy

namespace Edit

/-- The cursor after an operation. Without an active position, there is no token to replace and
the cursor stays as it is. -/
def apply (c : Cursor) : Edit → Cursor
  | push p => c.push p
  | replace token => (c.replaceToken? token).getD c
  | pop => c.pop
  | copy => c

/-- What is pushed has a tag. -/
def Tagged : Edit → Prop
  | push p => p.tag ≠ ""
  | _ => True

theorem tagged_apply {c : Cursor} {edit : Edit} (cursor : c.Tagged) (tagged : edit.Tagged) :
    (edit.apply c).Tagged := by
  obtain ⟨positions⟩ := c
  cases edit with
  | push p => exact List.forall_mem_cons.mpr ⟨tagged, cursor⟩
  | replace token =>
    cases positions with
    | nil => exact cursor
    | cons p positions =>
      obtain ⟨here, others⟩ := List.forall_mem_cons.mp cursor
      exact List.forall_mem_cons.mpr ⟨here, others⟩
  | pop => exact fun p member => cursor p (List.mem_of_mem_tail member)
  | copy => exact cursor

theorem tagged_foldl {c : Cursor} (cursor : c.Tagged) {edits : List Edit}
    (tagged : ∀ edit ∈ edits, edit.Tagged) : (edits.foldl apply c).Tagged := by
  induction edits generalizing c with
  | nil => exact cursor
  | cons edit edits inductionHypothesis =>
    exact inductionHypothesis (tagged_apply cursor (tagged edit List.mem_cons_self))
      fun other member => tagged other (List.mem_cons_of_mem edit member)

end Edit

/-- Whatever is done to a cursor, its text is read back as that cursor. -/
theorem decode_encode_edited {origin : Cursor}
    (given : origin = empty ∨ ∃ text, decode text = .ok origin) {edits : List Edit}
    (tagged : ∀ edit ∈ edits, edit.Tagged) :
    decode (edits.foldl Edit.apply origin).encode = .ok (edits.foldl Edit.apply origin) := by
  have cursor : origin.Tagged := by
    obtain rfl | ⟨text, read⟩ := given
    · exact tagged_empty
    · exact tagged_of_decode read
  exact decode_encode (Edit.tagged_foldl cursor tagged)

/-- A text with a pair of escapes for one character, taken over by operations that leave a tag whose
characters are all written in another way than they are. -/
theorem decode_encode_edited_escapes :
    let text :=
      "\x7b\"phases\":[\x7b\"token\":\"\\ud83d\\ude00\",\"tag\":\"t\"\x7d],\"v\":1\x7d"
    let edits : List Edit :=
      [.push ⟨"\"\\\n\x7f😀", none, some ""⟩, .replace (some "\uffff"), .copy, .push ⟨"p", none, none⟩,
        .pop]
    decode text = .ok ⟨[⟨"t", some "😀", none⟩]⟩ ∧ (∀ edit ∈ edits, edit.Tagged) ∧
      decode (edits.foldl Edit.apply ⟨[⟨"t", some "😀", none⟩]⟩).encode =
        .ok ⟨[⟨"\"\\\n\x7f😀", some "\uffff", some ""⟩, ⟨"t", some "😀", none⟩]⟩ := by
  intro text edits
  have read : decode text = .ok ⟨[⟨"t", some "😀", none⟩]⟩ :=
    eq_ok_of_toOption (by decide +kernel)
  have tagged : ∀ edit ∈ edits, edit.Tagged := by simp [edits, Edit.Tagged]
  exact ⟨read, tagged, decode_encode_edited (.inr ⟨text, read⟩) tagged⟩

end AccessSync.Cursor
