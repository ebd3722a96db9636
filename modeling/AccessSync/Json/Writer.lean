import AccessSync.Decimal.Shortest
import AccessSync.Text.Quoted
import AccessSync.Value.Number

/-!
# Writing JSON

Documents are written in printable ASCII: every other character of a text is escaped, beyond the
basic plane as a surrogate pair. `Json.compact` writes without any space, `Json.spaced` on one line
with blanks, and `Json.indented` with one entry or item per line, two blanks deeper than the
bracket around it. All of them write every value; `Json.obstacle?` says which values have no form
in a document.
-/

namespace AccessSync.Json

def unitEscape (n : Nat) : List Char :=
  '\\' :: 'u' :: Text.hexDigits 4 n

def escapedChar (c : Char) : List Char :=
  if c = '"' then ['\\', '"']
  else if c = '\\' then ['\\', '\\']
  else if c = '\n' then ['\\', 'n']
  else if c = '\r' then ['\\', 'r']
  else if c = '\t' then ['\\', 't']
  else if c.toNat = 8 then ['\\', 'b']
  else if c.toNat = 12 then ['\\', 'f']
  else if 32 ≤ c.toNat && c.toNat < 127 then [c]
  else if c.toNat < 0x10000 then unitEscape c.toNat
  else
    let offset := c.toNat - 0x10000
    unitEscape (0xd800 + offset / 0x400) ++ unitEscape (0xdc00 + offset % 0x400)

def textChars (s : String) : List Char :=
  '"' :: s.toList.flatMap escapedChar ++ ['"']

def floatText (x : Float) : String :=
  if x.isNaN then "NaN"
  else if x.isInf then (if x < 0.0 then "-Infinity" else "Infinity")
  else Decimal.text x

def keyText : Key → String
  | .null => "null"
  | .bool b => if b then "true" else "false"
  | .int n => toString n
  | .float x => floatText x
  | .text s => s
  | .stamp s => s.text

def newline (depth : Nat) : List Char :=
  '\n' :: List.replicate (2 * depth) ' '

mutual

/-- The characters of a value on one line, with `gap` after every comma and colon. -/
def inlineChars (gap : List Char) : Value → List Char
  | .null => "null".toList
  | .bool b => (if b then "true" else "false").toList
  | .int n => (toString n).toList
  | .float x => (floatText x).toList
  | .text s => textChars s
  | .stamp s => textChars s.text
  | .list items => '[' :: inlineItems gap items ++ [']']
  | .mapping entries => '\x7b' :: inlineEntries gap entries ++ ['\x7d']

def inlineItems (gap : List Char) : List Value → List Char
  | [] => []
  | [v] => inlineChars gap v
  | v :: rest => inlineChars gap v ++ ',' :: gap ++ inlineItems gap rest

def inlineEntries (gap : List Char) : List (Key × Value) → List Char
  | [] => []
  | [(k, v)] => textChars (keyText k) ++ ':' :: gap ++ inlineChars gap v
  | (k, v) :: rest =>
    textChars (keyText k) ++ ':' :: gap ++ inlineChars gap v ++ ',' :: gap ++
      inlineEntries gap rest

end

def compact (v : Value) : String := String.ofList (inlineChars [] v)

def spaced (v : Value) : String := String.ofList (inlineChars [' '] v)

mutual

/-- The characters of a value at the given depth, one item or entry per line. -/
def indentedChars (depth : Nat) : Value → List Char
  | .list [] => "[]".toList
  | .mapping [] => "\x7b\x7d".toList
  | .list items => '[' :: indentedItems (depth + 1) items ++ newline depth ++ [']']
  | .mapping entries =>
    '\x7b' :: indentedEntries (depth + 1) entries ++ newline depth ++ ['\x7d']
  | v => inlineChars [] v

def indentedItems (depth : Nat) : List Value → List Char
  | [] => []
  | [v] => newline depth ++ indentedChars depth v
  | v :: rest => newline depth ++ indentedChars depth v ++ ',' :: indentedItems depth rest

def indentedEntries (depth : Nat) : List (Key × Value) → List Char
  | [] => []
  | [(k, v)] =>
    newline depth ++ textChars (keyText k) ++ ':' :: ' ' :: indentedChars depth v
  | (k, v) :: rest =>
    newline depth ++ textChars (keyText k) ++ ':' :: ' ' :: indentedChars depth v ++
      ',' :: indentedEntries depth rest

end

def indented (v : Value) : String := String.ofList (indentedChars 0 v)

/-! ## Obstacles -/

def scalarObstacle? : Value → Option Misuse
  | .int n => if isShort n then none else some .badContent
  | .stamp _ => some .wrongKind
  | _ => none

mutual

/-- The first part of a value, in the order of writing, that has no form in a document. -/
def obstacle? : Value → Option Misuse
  | .list items => itemsObstacle? items
  | .mapping entries => entriesObstacle? entries
  | v => scalarObstacle? v

def itemsObstacle? : List Value → Option Misuse
  | [] => none
  | v :: rest => (obstacle? v).or (itemsObstacle? rest)

def entriesObstacle? : List (Key × Value) → Option Misuse
  | [] => none
  | (k, v) :: rest =>
    (scalarObstacle? k.toValue).or ((obstacle? v).or (entriesObstacle? rest))

end

end AccessSync.Json
