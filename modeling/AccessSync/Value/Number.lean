import AccessSync.Decimal.Shortest
import AccessSync.Text.Blank
import AccessSync.Text.Digit
import AccessSync.Value.Basic

/-!
# Numbers written as text

A whole number may be written with blanks around it, a sign, digits of any script and single
underscores between digits. A decimal number may besides have a fraction and a power of ten, and
may name infinity or the undefined number.
-/

namespace AccessSync

def maxWrittenDigits : Nat := 4300

/-- The digit values of a run of digits with single underscores inside; the run may go on after
`digits`, which are in reverse order and not empty. -/
def digitRun (digits : List Nat) : List Char → Option (List Nat)
  | [] => some digits.reverse
  | '_' :: c :: rest =>
    match Text.digitValue? c with
    | some d => digitRun (d :: digits) rest
    | none => none
  | c :: rest =>
    match Text.digitValue? c with
    | some d => digitRun (d :: digits) rest
    | none => none

def digitRun? : List Char → Option (List Nat)
  | [] => none
  | c :: rest =>
    match Text.digitValue? c with
    | some d => digitRun [d] rest
    | none => none

/-- The sign of a number, true for a minus, and what follows it. -/
def splitSign : List Char → Bool × List Char
  | '-' :: rest => (true, rest)
  | '+' :: rest => (false, rest)
  | cs => (false, cs)

def integerOfChars? (cs : List Char) : Option Int :=
  let (negative, body) := splitSign (Text.trimChars Text.isNumberBlank cs)
  match digitRun? body with
  | none => none
  | some digits =>
    if maxWrittenDigits < digits.length then none
    else
      let n := Text.digitsToNat 0 digits
      some (if negative then -(n : Int) else n)

def integerOfText? (s : String) : Option Int := integerOfChars? s.toList

/-- The characters before the first one that satisfies `stop`, and the rest with that one. -/
def splitBefore (stop : Char → Bool) (cs : List Char) : List Char × List Char :=
  (cs.takeWhile (!stop ·), cs.dropWhile (!stop ·))

def digitsOrEmpty? : List Char → Option (List Nat)
  | [] => some []
  | cs => digitRun? cs

def powerOfChars? : List Char → Option Int
  | [] => some 0
  | _ :: rest =>
    let (negative, body) := splitSign rest
    (digitRun? body).map fun digits =>
      let n := Text.digitsToNat 0 digits
      if negative then -(n : Int) else n

def unsignedDecimal? (cs : List Char) : Option Float :=
  let (number, power) := splitBefore (fun c => c == 'e' || c == 'E') cs
  let (whole, fraction) := splitBefore (· == '.') number
  match digitsOrEmpty? whole, digitsOrEmpty? (fraction.drop 1), powerOfChars? power with
  | some [], some [], _ => none
  | some w, some f, some p =>
    some (Decimal.toFloat ⟨Text.digitsToNat 0 (w ++ f), p - f.length⟩)
  | _, _, _ => none

def infinityNames : List String := ["inf", "infinity"]

def floatOfText? (s : String) : Option Float :=
  let (negative, body) := splitSign (Text.trimChars Text.isNumberBlank s.toList)
  let name := String.ofList (body.map Char.toLower)
  let size :=
    if infinityNames.contains name then some (1.0 / 0.0)
    else if name == "nan" then some (0.0 / 0.0)
    else unsignedDecimal? body
  size.map fun x => if negative then -x else x

def largestFloat : Nat := (Nat.pow 2 53 - 1) * Nat.pow 2 971

/-- The whole number has no more digits than one may be written with. -/
def isShort (n : Int) : Bool := n.natAbs < Nat.pow 10 maxWrittenDigits

def Key.isWritable : Key → Bool
  | int n => isShort n
  | _ => true

namespace Value

/-- The value as a whole number: a text is read, a decimal number loses its fraction. -/
def toInteger : Value → Except Misuse Int
  | bool b => .ok (if b then 1 else 0)
  | int n => .ok n
  | float x =>
    if x.isNaN then .error .badContent
    else if x.isInf then .error .tooLarge
    else .ok (Decimal.wholePartOfBits x.toBits.toNat)
  | text s =>
    match integerOfText? s with
    | some n => .ok n
    | none => .error .badContent
  | _ => .error .wrongKind

mutual

/-- The value can be written out: all whole numbers in it are short enough. -/
def isWritable : Value → Bool
  | int n => isShort n
  | list items => areWritable items
  | mapping entries => areWritableEntries entries
  | _ => true

def areWritable : List Value → Bool
  | [] => true
  | v :: rest => v.isWritable && areWritable rest

def areWritableEntries : List (Key × Value) → Bool
  | [] => true
  | (k, v) :: rest => k.isWritable && v.isWritable && areWritableEntries rest

end

/-- The double nearest to a whole number, unless that is beyond the largest one by half a unit or
more. -/
def floatOfInteger (n : Int) : Except Misuse Float :=
  if largestFloat + Nat.pow 2 970 ≤ n.natAbs then .error .tooLarge
  else .ok (Float.ofInt n)

def toDecimal : Value → Except Misuse Float
  | bool b => .ok (if b then 1.0 else 0.0)
  | int n => floatOfInteger n
  | float x => .ok x
  | text s =>
    match floatOfText? s with
    | some x => .ok x
    | none => .error .badContent
  | _ => .error .wrongKind

end Value

end AccessSync
