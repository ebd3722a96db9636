import AccessSync.Fault
import AccessSync.Json.Reader
import AccessSync.Json.Writer

/-!
# Page cursors

A cursor says where a paged enumeration goes on: a stack of positions, one per phase that is not
finished, with the active phase on top. Callers hold it as an opaque text; the empty text stands
for the empty stack. `Cursor.encode` writes the text and `Cursor.decode` reads it back.
-/

namespace AccessSync

structure Position where
  tag : String
  /-- The continuation token, none for the first page of the phase. -/
  token : Option String
  id : Option String
  deriving Inhabited, DecidableEq, Repr

/-- A stack of positions, the active one first. -/
structure Cursor where
  positions : List Position
  deriving Inhabited, DecidableEq, Repr

namespace Cursor

def empty : Cursor := ⟨[]⟩

def isEmpty (c : Cursor) : Bool := c.positions.isEmpty

def size (c : Cursor) : Nat := c.positions.length

def active? (c : Cursor) : Option Position := c.positions.head?

def push (c : Cursor) (p : Position) : Cursor := ⟨p :: c.positions⟩

def pop (c : Cursor) : Cursor := ⟨c.positions.tail⟩

/-- The cursor with another continuation token for the active phase, if there is one. -/
def replaceToken? (c : Cursor) (token : Option String) : Option Cursor :=
  match c.positions with
  | [] => none
  | p :: rest => some ⟨{ p with token } :: rest⟩

/-! ## Text form -/

def version : Int := 1

def positionValue (p : Position) : Value :=
  .record [("tag", .text p.tag), ("token", .ofText? p.token), ("id", .ofText? p.id)]

/-- The text of a cursor; positions stand in it from the bottom of the stack upwards. -/
def encode (c : Cursor) : String :=
  if c.isEmpty then ""
  else Json.compact (.record [
    ("v", .int version),
    ("phases", .list (c.positions.reverse.map positionValue))])

def isVersion : Value → Bool
  | .int n => n == version
  | .float x => x == Float.ofInt version
  -- A truth value is no version, though it may count as a number elsewhere.
  | _ => false

def optionalText (entry : Value) (field : String) : Except CursorFault (Option String) :=
  match entry.field field with
  | .ok .null => .ok none
  | .ok (.text s) => .ok (some s)
  | _ => .error (.fieldNotText field)

def positionOf (entry : Value) : Except CursorFault Position := do
  match entry with
  | .mapping _ => pure ()
  | _ => throw .entryNotObject
  let tag ← match entry.field "tag" with
    | .ok (.text s) => if s.isEmpty then throw .noTag else pure s
    | _ => throw .noTag
  return { tag, token := ← optionalText entry "token", id := ← optionalText entry "id" }

def ofDocument (document : Value) : Except CursorFault Cursor := do
  let .mapping entries := document | throw .notObject
  let given := (lookup? "v" entries).getD .null
  -- The version comes first: what else a later one holds is not known.
  if !isVersion given then throw (.version given)
  let some (.list items) := lookup? "phases" entries | throw .noPhaseList
  return ⟨(← items.mapM positionOf).reverse⟩

/-- The cursor that a text stands for; the empty text stands for the empty cursor. -/
def decode (s : String) : Except CursorFault Cursor :=
  if s.isEmpty then .ok empty
  else match Json.parse? s with
    | some document => ofDocument document
    | none => .error .notJson

end Cursor

end AccessSync
