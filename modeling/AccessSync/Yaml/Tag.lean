import AccessSync.Text.Case
import AccessSync.Value.Number
import AccessSync.Yaml.Scalar

/-!
# Kinds of values in configuration files

A tag says what kind of value a text stands for. A plain scalar without one gets the tag of the kind
that it is written like: nothing, a truth value, a number, a stamp, or else a text. Whole numbers
may be binary, octal, hexadecimal or sexagesimal. A text that is tagged by hand need not be written
like its kind, and may then have no value.

Binary data, sets and lists of pairs, which have tags too, are not read.
-/

namespace AccessSync.Yaml

inductive Unreadable where
  | malformed
  /-- A scalar that is not of the kind that its tag or its form says. -/
  | misuse (misuse : Misuse)

inductive Tag where
  | null
  | bool
  | int
  | float
  | stamp
  | text
  | list
  | mapping
  /-- A key whose value has entries to be taken over. -/
  | merge
  /-- A key that is reserved for the value of a mapping that stands for a scalar. -/
  | reserved
  | foreign
  deriving Inhabited, DecidableEq, Repr

def tagStart : String := "tag:yaml.org,2002:"

def tagNames : List (String × Tag) := [
  ("null", .null), ("bool", .bool), ("int", .int), ("float", .float), ("timestamp", .stamp),
  ("str", .text), ("seq", .list), ("map", .mapping), ("merge", .merge), ("value", .reserved)]

def Tag.ofText (s : String) : Tag :=
  ((Text.dropStart? tagStart s).bind (List.lookup · tagNames)).getD .foreign

/-! ## Forms of scalars -/

def nullWords : List String := ["", "~", "null", "Null", "NULL"]

def boolWords : List String := [
  "yes", "Yes", "YES", "no", "No", "NO", "true", "True", "TRUE", "false", "False", "FALSE", "on",
  "On", "ON", "off", "Off", "OFF"]

def infinityWords : List String := [".inf", ".Inf", ".INF"]

def undefinedWords : List String := [".nan", ".NaN", ".NAN"]

def isDigitOrScore (c : Char) : Bool := c.isDigit || c = '_'

def withoutScores (cs : List Char) : List Char := cs.filter (· ≠ '_')

def parts (cs : List Char) : List (List Char) := Text.splitChars ':' cs

/-- A part of a sexagesimal number after the first: one digit, or two up to 59. -/
def isSixtieth : List Char → Bool
  | [d] => d.isDigit
  | [t, d] => '0' ≤ t && t ≤ '5' && d.isDigit
  | _ => false

def isRun : List Char → Bool
  | c :: rest => c.isDigit && rest.all isDigitOrScore
  | [] => false

def isWhole : List Char → Bool
  | '0' :: 'b' :: rest => !rest.isEmpty && rest.all fun c => c = '0' || c = '1' || c = '_'
  | '0' :: 'x' :: rest => !rest.isEmpty && rest.all fun c => (Text.hexValue? c).isSome || c = '_'
  | '0' :: rest => rest.all fun c => ('0' ≤ c && c ≤ '7') || c = '_'
  | cs =>
    match parts cs with
    | first :: rest => isRun first && rest.all isSixtieth
    | [] => false

def isPower : List Char → Bool
  | [] => true
  | e :: sign :: d :: rest =>
    (e = 'e' || e = 'E') && (sign = '+' || sign = '-') && d.isDigit && rest.all Char.isDigit
  | _ => false

/-- A fraction from its point on, followed by a power of ten where one is allowed. -/
def isFraction (power : Bool) : List Char → Bool
  | '.' :: rest =>
    let after := rest.dropWhile isDigitOrScore
    if power then isPower after else after.isEmpty
  | _ => false

def isUnsignedDecimal (cs : List Char) : Bool :=
  let (before, fraction) := splitBefore (· = '.') cs
  match parts before with
  | [digits] => isRun digits && isFraction true fraction
  | first :: rest => isRun first && rest.all isSixtieth && isFraction false fraction
  | [] => false

def isPointFirst : List Char → Bool
  | '.' :: d :: rest => d.isDigit && isFraction true ('.' :: d :: rest)
  | _ => false

def isDecimal (cs : List Char) : Bool :=
  let body := (splitSign cs).2
  infinityWords.contains (String.ofList body) || undefinedWords.contains (String.ofList cs) ||
    isUnsignedDecimal body || isPointFirst cs

/-! ## Stamps -/

/-- A number of at least one and at most `most` digits, and what follows it. -/
def takeNumber (most : Nat) (cs : List Char) : Option (Nat × List Char) :=
  let digits := (cs.take most).takeWhile Char.isDigit
  if digits.isEmpty then none
  else some (Text.digitsToNat 0 (digits.filterMap Text.asciiDigit?), cs.drop digits.length)

def takeTwo (cs : List Char) : Option (Nat × List Char) :=
  if (cs.take 2).length = 2 && (cs.take 2).all Char.isDigit then takeNumber 2 cs else none

def takeChar (c : Char) : List Char → Option (List Char)
  | d :: rest => if d = c then some rest else none
  | [] => none

def takeMicroseconds : List Char → Nat × List Char
  | '.' :: rest =>
    let digits := (rest.takeWhile Char.isDigit).take 6
    let value := Text.digitsToNat 0 (digits.filterMap Text.asciiDigit?)
    (value * Nat.pow 10 (6 - digits.length), rest.dropWhile Char.isDigit)
  | cs => (0, cs)

def ahead? (sign : Char) (cs : List Char) : Option Int := do
  let (hours, rest) ← takeNumber 2 cs
  let (minutes, last) ← if rest.isEmpty then some (0, []) else takeTwo (← takeChar ':' rest)
  let ahead : Int := 60 * hours + minutes
  if !last.isEmpty then none
  else if sign = '+' then return ahead
  else if sign = '-' then return -ahead
  else none

def zone? (cs : List Char) : Option (Option Int) :=
  match cs.dropWhile isSpace with
  | [] => if cs.isEmpty then some none else none
  | ['Z'] => some (some 0)
  | sign :: rest => (ahead? sign rest).map some

def clockTime? (cs : List Char) : Option ClockTime := do
  let (hour, rest) ← takeNumber 2 cs
  let (minute, rest) ← takeTwo (← takeChar ':' rest)
  let (second, rest) ← takeTwo (← takeChar ':' rest)
  let (microsecond, rest) := takeMicroseconds rest
  return { hour, minute, second, microsecond, ahead := ← zone? rest }

def afterDay? : List Char → Option (List Char)
  | 'T' :: rest | 't' :: rest => some rest
  | c :: rest => if isSpace c then some (rest.dropWhile isSpace) else none
  | [] => none

/-- The stamp that a text is written like; the calendar need not have it. -/
def stampOfChars? (cs : List Char) : Option Stamp := do
  if !(cs.take 4).all Char.isDigit then none
  else
    let (year, rest) ← takeNumber 4 cs
    let (month, rest) ← takeNumber 2 (← takeChar '-' rest)
    let (day, rest) ← takeNumber 2 (← takeChar '-' rest)
    if rest.isEmpty then return ⟨year, month, day, none⟩
    else return ⟨year, month, day, some (← clockTime? (← afterDay? rest))⟩

/-- A plain scalar that is written like this is a stamp. Without a time, month and day have two
digits. -/
def isStamp (cs : List Char) : Bool :=
  match stampOfChars? cs with
  | some stamp => stamp.time.isSome || cs.length = 10
  | none => false

/-! ## Tags of plain scalars -/

def withoutLastBreak (cs : List Char) : List Char :=
  if 1 < cs.length && cs.getLast? = some '\n' then cs.dropLast else cs

/-- The marks of properties, which no plain scalar consists of; they are no value. -/
def marks : List String := ["!", "&", "*"]

def Tag.ofPlain (s : String) : Tag :=
  let cs := withoutLastBreak s.toList
  let word := String.ofList cs
  if nullWords.contains word then .null
  else if boolWords.contains word then .bool
  else if word = "<<" then .merge
  else if word = "=" then .reserved
  else if marks.contains word then .foreign
  else if isDecimal cs then .float
  else if isWhole (splitSign cs).2 then .int
  else if isStamp cs then .stamp
  else .text

/-! ## Values of scalars -/

def truths : List (String × Bool) :=
  [("yes", true), ("no", false), ("true", true), ("false", false), ("on", true), ("off", false)]

def orBad {α : Type} (value : Option α) : Except Misuse α :=
  match value with
  | some a => .ok a
  | none => .error .badContent

def digitIn? (base : Nat) (c : Char) : Option Nat :=
  ((Text.digitValue? c).or (Text.hexValue? c)).filter (· < base)

/-- The whole number that a text stands for in a base. The base may be said before the digits once
more, by a zero and its letter. -/
def wholeInBase? (base : Nat) (letters : List Char) (cs : List Char) : Option Int := do
  let (negative, body) := splitSign (Text.trimChars Text.isNumberBlank cs)
  let digits := match body with
    | '0' :: letter :: rest => if letters.contains letter then rest else body
    | body => body
  if digits.isEmpty then none
  else
    let n ← digits.foldlM (fun n c => (digitIn? base c).map (base * n + ·)) 0
    return if negative then -(n : Int) else n

def sexagesimal (parts : List Int) : Int := parts.foldl (60 * · + ·) 0

def unsignedInteger (cs : List Char) : Except Misuse Int :=
  match cs with
  | [] => .error .badContent
  | '0' :: 'b' :: rest => orBad (wholeInBase? 2 ['b', 'B'] rest)
  | '0' :: 'x' :: rest => orBad (wholeInBase? 16 ['x', 'X'] rest)
  | '0' :: rest => orBad (wholeInBase? 8 ['o', 'O'] ('0' :: rest))
  | cs =>
    if cs.contains ':' then orBad ((parts cs).mapM integerOfChars?) |>.map sexagesimal
    else orBad (integerOfChars? cs)

def integerOf (s : String) : Except Misuse Int := do
  let (negative, body) := splitSign (withoutScores s.toList)
  let n ← unsignedInteger body
  return if negative then -n else n

/-- The sum of parts that each count sixty times as much as the one after them, from the last one
on. -/
def sexagesimalFloat (sum : Float) (weight : Int) : List Float → Except Misuse Float
  | [] => .ok sum
  | part :: rest => do
    sexagesimalFloat (sum + part * (← Value.floatOfInteger weight)) (60 * weight) rest

def unsignedFloat (cs : List Char) : Except Misuse Float :=
  let word := String.ofList cs
  if word = ".inf" then .ok (1.0 / 0.0)
  else if word = ".nan" then .ok (0.0 / 0.0)
  else if cs.contains ':' then do
    let values ← orBad ((parts cs).mapM fun part => floatOfText? (String.ofList part))
    sexagesimalFloat 0.0 1 values.reverse
  else orBad (floatOfText? word)

def floatOf (s : String) : Except Misuse Float := do
  let (negative, body) :=
    splitSign (Text.lower (String.ofList (withoutScores s.toList))).toList
  let x ← unsignedFloat body
  return if negative then -x else x

def stampOf (s : String) : Except Misuse Stamp :=
  match stampOfChars? (withoutLastBreak s.toList) with
  | none => .error .notRecord
  | some stamp => if stamp.isReal then .ok stamp else .error .badContent

def boolOf (s : String) : Except Misuse Bool :=
  let word := Text.lower s
  match truths.lookup word with
  | some b => .ok b
  | none => .error (.missingKey word)

def Tag.read (tag : Tag) (s : String) : Except Unreadable Value :=
  match tag with
  | .null => .ok .null
  | .text => .ok (.text s)
  | .bool => ((boolOf s).map .bool).mapError .misuse
  | .int => ((integerOf s).map .int).mapError .misuse
  | .float => ((floatOf s).map .float).mapError .misuse
  | .stamp => ((stampOf s).map .stamp).mapError .misuse
  | .list | .mapping | .merge | .reserved | .foreign => .error .malformed

end AccessSync.Yaml
