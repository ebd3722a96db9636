import AccessSync.Decimal.Shortest
import AccessSync.Text.Digit
import AccessSync.Value.Basic
import AccessSync.Value.Number

/-!
# Reading JSON

`Json.parse?` reads one JSON document. Beyond the standard it accepts the words for the undefined
number and the two infinities; of equal keys in an object the last value counts, at the place of
the first. Control characters inside a text have to be escaped.
-/

namespace AccessSync.Json

def isSpace (c : Char) : Bool :=
  c == ' ' || c == '\t' || c == '\n' || c == '\r'

def skipSpace (cs : List Char) : List Char := cs.dropWhile isSpace

/-! ## Texts -/

def hexQuad? (a b c d : Char) : Option Nat := do
  let high := (← Text.hexValue? a) * 16 + (← Text.hexValue? b)
  return (high * 16 + (← Text.hexValue? c)) * 16 + (← Text.hexValue? d)

def isHighSurrogate (n : Nat) : Bool := 0xd800 ≤ n && n ≤ 0xdbff

def isLowSurrogate (n : Nat) : Bool := 0xdc00 ≤ n && n ≤ 0xdfff

def pairedChar (high low : Nat) : Char :=
  Char.ofNat (0x10000 + (high - 0xd800) * 0x400 + (low - 0xdc00))

/-- The character of one unit; a lone surrogate reads as the replacement character. -/
def unitChar (n : Nat) : Char :=
  if isHighSurrogate n || isLowSurrogate n then Char.ofNat 0xfffd else Char.ofNat n

def shortEscape? : Char → Option Char
  | '"' => some '"'
  | '\\' => some '\\'
  | '/' => some '/'
  | 'b' => some (Char.ofNat 8)
  | 'f' => some (Char.ofNat 12)
  | 'n' => some '\n'
  | 'r' => some '\r'
  | 't' => some '\t'
  | _ => none

def readText : List Char → Option (List Char × List Char)
  | [] => none
  | '"' :: rest => some ([], rest)
  | '\\' :: 'u' :: a :: b :: c :: d :: '\\' :: 'u' :: e :: f :: g :: h :: rest =>
    match hexQuad? a b c d, hexQuad? e f g h with
    | some high, some low =>
      -- Two units that make no pair are read one by one.
      if isHighSurrogate high && isLowSurrogate low then
        (readText rest).map fun (cs, left) => (pairedChar high low :: cs, left)
      else
        (readText ('\\' :: 'u' :: e :: f :: g :: h :: rest)).map fun (cs, left) =>
          (unitChar high :: cs, left)
    | _, _ => none
  | '\\' :: 'u' :: a :: b :: c :: d :: rest =>
    match hexQuad? a b c d with
    | some unit => (readText rest).map fun (cs, left) => (unitChar unit :: cs, left)
    | none => none
  | '\\' :: c :: rest =>
    match shortEscape? c with
    | some escaped => (readText rest).map fun (cs, left) => (escaped :: cs, left)
    | none => none
  | c :: rest =>
    if c == '\\' || c.toNat < 32 then none
    else (readText rest).map fun (cs, left) => (c :: cs, left)

/-! ## Numbers -/

def takeDigits : List Char → List Nat × List Char
  | [] => ([], [])
  | c :: rest =>
    match Text.asciiDigit? c with
    | some d =>
      let (digits, left) := takeDigits rest
      (d :: digits, left)
    | none => ([], c :: rest)

/-- The whole part of a number: a zero, or digits that start with another one. -/
def takeWhole : List Char → Option (List Nat × List Char)
  | '0' :: rest => some ([0], rest)
  | cs =>
    match takeDigits cs with
    | ([], _) => none
    | found => some found

def takeFraction : List Char → Option (List Nat) × List Char
  | '.' :: rest =>
    match takeDigits rest with
    | ([], _) => (none, '.' :: rest)
    | (digits, left) => (some digits, left)
  | cs => (none, cs)

def takePower : List Char → Option Int × List Char
  | c :: rest =>
    if c == 'e' || c == 'E' then
      let (negative, body) := splitSign rest
      match takeDigits body with
      | ([], _) => (none, c :: rest)
      | (digits, left) =>
        let n := Text.digitsToNat 0 digits
        (some (if negative then -(n : Int) else n), left)
    else (none, c :: rest)
  | [] => (none, [])

/-- A number without its sign. With a fraction or a power it is a decimal number. -/
def readUnsigned (negative : Bool) (cs : List Char) : Option (Value × List Char) :=
  match takeWhole cs with
  | none => none
  | some (whole, afterWhole) =>
    let (fraction, afterFraction) := takeFraction afterWhole
    let (power, left) := takePower afterFraction
    match fraction, power with
    | none, none =>
      -- So long a number cannot be read at all.
      if maxWrittenDigits < whole.length then none
      else
        let n := Text.digitsToNat 0 whole
        some (.int (if negative then -(n : Int) else n), left)
    | _, _ =>
      let places := fraction.getD []
      let x := Decimal.toFloat
        ⟨Text.digitsToNat 0 (whole ++ places), power.getD 0 - places.length⟩
      some (.float (if negative then -x else x), left)

def words : List (List Char × Value) :=
  [("null".toList, .null), ("true".toList, .bool true), ("false".toList, .bool false),
    ("NaN".toList, .float (0.0 / 0.0)), ("Infinity".toList, .float (1.0 / 0.0)),
    ("-Infinity".toList, .float (-1.0 / 0.0))]

def readWord (cs : List Char) : Option (Value × List Char) :=
  (words.find? fun (word, _) => word.isPrefixOf cs).map fun (word, v) =>
    (v, cs.drop word.length)

def readScalar (cs : List Char) : Option (Value × List Char) :=
  match readWord cs with
  | some found => some found
  | none =>
    match cs with
    | '-' :: rest => readUnsigned true rest
    | _ => readUnsigned false cs

/-! ## Documents -/

/-- The entries in order of first appearance, each with its last value. -/
def lastValues (entries : List (String × Value)) : List (Key × Value) :=
  overlay [] (entries.map fun (k, v) => (.text k, v))

mutual

/-- The value at the start of the input. Every call consumes a character, so the length of the
input bounds the depth of calls. -/
def readValue : (fuel : Nat) → List Char → Option (Value × List Char)
  | 0, _ => none
  | fuel + 1, cs =>
    match cs with
    | '"' :: rest => (readText rest).map fun (s, left) => (.text (String.ofList s), left)
    | '[' :: rest =>
      match skipSpace rest with
      | ']' :: left => some (.list [], left)
      | inner => (readItems fuel inner).map fun (items, left) => (.list items, left)
    | '\x7b' :: rest =>
      match skipSpace rest with
      | '\x7d' :: left => some (.mapping [], left)
      | inner =>
        (readEntries fuel inner).map fun (entries, left) => (.mapping (lastValues entries), left)
    | _ => readScalar cs

def readItems : (fuel : Nat) → List Char → Option (List Value × List Char)
  | 0, _ => none
  | fuel + 1, cs =>
    match readValue fuel cs with
    | none => none
    | some (v, rest) =>
      match skipSpace rest with
      | ']' :: left => some ([v], left)
      | ',' :: inner =>
        (readItems fuel (skipSpace inner)).map fun (items, left) => (v :: items, left)
      | _ => none

def readEntries : (fuel : Nat) → List Char → Option (List (String × Value) × List Char)
  | 0, _ => none
  | fuel + 1, cs =>
    match cs with
    | '"' :: afterQuote =>
      match readText afterQuote with
      | none => none
      | some (key, afterKey) =>
        match skipSpace afterKey with
        | ':' :: afterColon =>
          match readValue fuel (skipSpace afterColon) with
          | none => none
          | some (v, rest) =>
            match skipSpace rest with
            | '\x7d' :: left => some ([(String.ofList key, v)], left)
            | ',' :: inner =>
              (readEntries fuel (skipSpace inner)).map fun (entries, left) =>
                ((String.ofList key, v) :: entries, left)
            | _ => none
        | _ => none
    | _ => none

end

def parse? (s : String) : Option Value :=
  let cs := s.toList
  match readValue (cs.length + 1) (skipSpace cs) with
  | some (v, rest) => if (skipSpace rest).isEmpty then some v else none
  | none => none

end AccessSync.Json
