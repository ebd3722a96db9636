import AccessSync.Value.Literal

/-!
# Lenient access to documents

Documents that describe themselves, such as scripts and command files, are read without faults:
what is absent or of another kind reads as null or as nothing.
-/

namespace AccessSync.Value

def get? (v : Value) (key : String) : Option Value :=
  (v.entries?.getD []) |> lookup? (.text key)

/-- The entry of a mapping with a text key, null when there is none. -/
def get (v : Value) (key : String) : Value := (v.get? key).getD .null

/-- The items of a list, none of anything else. -/
def items : Value → List Value
  | .list items => items
  | _ => []

def fields (v : Value) : List (String × Value) :=
  (v.entries?.getD []).map fun (k, x) => (k.toValue.display, x)

def text? : Value → Option String
  | .text s => some s
  | _ => none

def int? : Value → Option Int
  | .int n => some n
  | _ => none

def getText (v : Value) (key : String) : String := ((v.get? key).map display).getD ""

end AccessSync.Value
