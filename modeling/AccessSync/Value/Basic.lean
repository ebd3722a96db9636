import AccessSync.Decimal.Shortest
import AccessSync.Value.Stamp

/-!
# Dynamic values

Configuration files and the records of the directory and of the management service are trees of
values whose kind is known only when they are read. `Value` is that tree; the readers of this
module say what happens when a value has another kind than a rule expects.
-/

namespace AccessSync

/-- The key of a mapping entry. Records from the services have text keys only; a configuration
file may use any scalar. -/
inductive Key where
  | null
  | bool (b : Bool)
  | int (n : Int)
  | float (x : Float)
  | text (s : String)
  | stamp (s : Stamp)
  deriving Inhabited, BEq, Repr

/-- A value of a configuration file or of a service record. A mapping keeps its entries in the
order in which their keys first appeared. -/
inductive Value where
  | null
  | bool (b : Bool)
  | int (n : Int)
  | float (x : Float)
  | text (s : String)
  | stamp (s : Stamp)
  | list (items : List Value)
  | mapping (entries : List (Key × Value))
  deriving Inhabited, Repr

instance : Coe String Key := ⟨Key.text⟩

inductive Misuse where
  | missingKey (key : Key)
  /-- The value has a kind on which the operation is not defined. -/
  | wrongKind
  /-- A record was expected and the value is not one. -/
  | notRecord
  /-- The value has the right kind and no acceptable content. -/
  | badContent
  /-- The number is too large for the operation. -/
  | tooLarge
  deriving Inhabited, BEq, Repr

/-! ## Keys -/

/-- What a key is known by. Numbers of all kinds are the same if they are equal, and so are stamps
that name the same point in time. -/
inductive KeyName where
  | absent
  | text (s : String)
  | whole (n : Int)
  /-- A number that is not a whole one, by its bits. -/
  | decimal (bits : UInt64)
  | stamp (s : Stamp)
  /-- A point in time, in microseconds. -/
  | instant (microseconds : Int)
  deriving DecidableEq

def Key.name : Key → KeyName
  | .null => .absent
  | .bool b => .whole (if b then 1 else 0)
  | .int n => .whole n
  | .float x => ((Decimal.wholeOfBits? x.toBits.toNat).map .whole).getD (.decimal x.toBits)
  | .text s => .text s
  | .stamp s => (s.instant?.map .instant).getD (.stamp s)

def Key.same (a b : Key) : Bool :=
  match a, b with
  | .text s, .text t => s == t
  | a, b => decide (a.name = b.name)

def Key.toValue : Key → Value
  | .null => .null
  | .bool b => .bool b
  | .int n => .int n
  | .float x => .float x
  | .text s => .text s
  | .stamp s => .stamp s

def Value.toKey : Value → Except Misuse Key
  | .null => .ok .null
  | .bool b => .ok (.bool b)
  | .int n => .ok (.int n)
  | .float x => .ok (.float x)
  | .text s => .ok (.text s)
  | .stamp s => .ok (.stamp s)
  | .list _ | .mapping _ => .error .wrongKind

/-! ## Mapping entries -/

def lookup? (key : Key) : List (Key × Value) → Option Value
  | [] => none
  | (k, v) :: rest => if k.same key then some v else lookup? key rest

/-- The entries with the value of `key` replaced in place, or appended when it is new. -/
def setEntry (key : Key) (value : Value) : List (Key × Value) → List (Key × Value)
  | [] => [(key, value)]
  | (k, v) :: rest =>
    if k.same key then (k, value) :: rest else (k, v) :: setEntry key value rest

def overlay (base overrides : List (Key × Value)) : List (Key × Value) :=
  overrides.foldl (fun entries (k, v) => setEntry k v entries) base

namespace Value

/-- An empty, zero, false or null value. -/
def isEmpty : Value → Bool
  | null => true
  | bool b => !b
  | int n => n == 0
  | float x => x == 0.0
  | text s => s == ""
  | stamp _ => false
  | list items => items.isEmpty
  | mapping entries => entries.isEmpty

def holds (v : Value) : Bool := !v.isEmpty

def isNull : Value → Bool
  | null => true
  | _ => false

def isTextOrAbsent : Value → Bool
  | text _ | null => true
  | _ => false

def orElse (v default : Value) : Value :=
  if v.isEmpty then default else v

def record (fields : List (String × Value)) : Value :=
  .mapping (fields.map fun (k, v) => (.text k, v))

def ofText? : Option String → Value
  | some s => .text s
  | none => .null

def entries? : Value → Option (List (Key × Value))
  | mapping entries => some entries
  | _ => none

def field? (v : Value) (key : String) : Except Misuse (Option Value) :=
  match v with
  | mapping entries => .ok (lookup? key entries)
  | _ => .error .notRecord

def field (v : Value) (key : String) : Except Misuse Value := do
  return (← v.field? key).getD .null

def require (v : Value) (key : String) : Except Misuse Value :=
  match v with
  | mapping entries =>
    match lookup? key entries with
    | some value => .ok value
    | none => .error (.missingKey key)
  | _ => .error .wrongKind

/-- The elements a value offers one by one: those of a list, the keys of a mapping and the
characters of a text. -/
def elements : Value → Except Misuse (List Value)
  | list items => .ok items
  | mapping entries => .ok (entries.map fun (k, _) => k.toValue)
  | text s => .ok (s.toList.map fun c => .text c.toString)
  | _ => .error .wrongKind

def asText : Value → Except Misuse String
  | text s => .ok s
  | _ => .error .wrongKind

def textOr (v : Value) (default : String) : Except Misuse String :=
  if v.isEmpty then .ok default else v.asText

def nonemptyText? (v : Value) : Except Misuse (Option String) :=
  if v.isEmpty then .ok none else v.asText.map some

def textField (v : Value) (key default : String) : Except Misuse String := do
  (← v.field key).textOr default

def listField (v : Value) (key : String) : Except Misuse (List Value) := do
  let items ← v.field key
  if items.isEmpty then return [] else items.elements

end Value

end AccessSync
