import AccessSync.Decimal.Shortest
import AccessSync.Text.Quoted
import AccessSync.Value.Basic

/-!
# Values in messages

A message shows a value as a literal: texts in quotes, lists in brackets and mappings in braces.
On its own, a text is shown without quotes.
-/

namespace AccessSync

def separated (separator : String) : List String → String
  | [] => ""
  | [s] => s
  | s :: rest => s ++ separator ++ separated separator rest

def boolLiteral (b : Bool) : String := if b then "True" else "False"

def Key.literal : Key → String
  | .null => "None"
  | .bool b => boolLiteral b
  | .int n => toString n
  | .float x => Decimal.text x
  | .text s => Text.quoted s
  | .stamp s => s.literal

namespace Value

mutual

def literal : Value → String
  | null => "None"
  | bool b => boolLiteral b
  | int n => toString n
  | float x => Decimal.text x
  | text s => Text.quoted s
  | stamp s => s.literal
  | list items => "[" ++ separated ", " (literals items) ++ "]"
  | mapping entries => "\x7b" ++ separated ", " (entryLiterals entries) ++ "\x7d"

def literals : List Value → List String
  | [] => []
  | v :: rest => v.literal :: literals rest

def entryLiterals : List (Key × Value) → List String
  | [] => []
  | (k, v) :: rest => (k.literal ++ ": " ++ v.literal) :: entryLiterals rest

end

/-- A value inside running text: a text as it stands, a stamp in the international form, anything
else as a literal. -/
def display : Value → String
  | text s => s
  | stamp s => s.text
  | v => v.literal

end Value

end AccessSync
