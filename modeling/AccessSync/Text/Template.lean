import AccessSync.Decimal.Shortest
import AccessSync.Value.Literal
import AccessSync.Value.Number

/-!
# Templates

A template is a text with fields. A field starts with a percent sign and ends with a letter that
says how its value is written; between them stand the name of the value in parentheses, flags, a
width and a precision, each of which may be absent. A field without a name takes the next of the
values that are at hand. Two percent signs write one.

Fields are filled from left to right, and the first one that cannot be filled decides the fault.
-/

namespace AccessSync.Template

/-! ## Fields -/

structure Layout where
  plus : Bool := false
  blank : Bool := false
  zeros : Bool := false
  left : Bool := false
  alternate : Bool := false
  width : Nat := 0
  precision : Option Nat := none

def takeFlags (layout : Layout) : List Char → Layout × List Char
  | [] => (layout, [])
  | c :: rest =>
    if c = '+' then takeFlags { layout with plus := true } rest
    else if c = ' ' then takeFlags { layout with blank := true } rest
    else if c = '0' then takeFlags { layout with zeros := true } rest
    else if c = '-' then takeFlags { layout with left := true } rest
    else if c = '#' then takeFlags { layout with alternate := true } rest
    else (layout, c :: rest)

/-- The name up to the parenthesis that closes it; parentheses inside come in pairs. -/
def takeName (depth : Nat) : List Char → Option (List Char × List Char)
  | [] => none
  | c :: rest =>
    if c = ')' && depth = 0 then some ([], rest)
    else
      let inner := if c = '(' then depth + 1 else if c = ')' then depth - 1 else depth
      (takeName inner rest).map fun (name, after) => (c :: name, after)

def takeNumber (cs : List Char) : Option Nat × List Char :=
  match cs.takeWhile (fun c => (Text.asciiDigit? c).isSome) with
  | [] => (none, cs)
  | digits =>
    (some (Text.digitsToNat 0 (digits.filterMap Text.asciiDigit?)), cs.drop digits.length)

def next : List Value → Except Misuse (Value × List Value)
  | [] => .error .wrongKind
  | v :: rest => .ok (v, rest)

def nextCount (values : List Value) : Except Misuse (Int × List Value) := do
  match ← next values with
  | (.int n, rest) => return (n, rest)
  | (.bool b, rest) => return (if b then 1 else 0, rest)
  | _ => throw .wrongKind

/-- The width, written out or taken from the values; a negative one turns the field to the left. -/
def takeWidth (layout : Layout) (values : List Value) (cs : List Char) :
    Except Misuse (Layout × List Value × List Char) :=
  match cs with
  | '*' :: rest => do
    let (n, others) ← nextCount values
    let layout := { layout with width := n.natAbs, left := layout.left || decide (n < 0) }
    return (layout, others, rest)
  | cs =>
    let (n, rest) := takeNumber cs
    .ok ({ layout with width := n.getD 0 }, values, rest)

/-- The precision after a point, zero when nothing follows the point. -/
def takePrecision (layout : Layout) (values : List Value) (cs : List Char) :
    Except Misuse (Layout × List Value × List Char) :=
  match cs with
  | '.' :: '*' :: rest => do
    let (n, others) ← nextCount values
    return ({ layout with precision := some n.toNat }, others, rest)
  | '.' :: rest =>
    let (n, after) := takeNumber rest
    .ok ({ layout with precision := some (n.getD 0) }, values, after)
  | cs => .ok (layout, values, cs)

/-- A size letter before the last letter has no meaning. -/
def dropSize : List Char → List Char
  | c :: rest => if c = 'h' || c = 'l' || c = 'L' then rest else c :: rest
  | [] => []

/-! ## Writing values -/

def padded (layout : Layout) (cs : List Char) : List Char :=
  let blanks := List.replicate (layout.width - cs.length) ' '
  if layout.left then cs ++ blanks else blanks ++ cs

def textChars (layout : Layout) (s : String) : List Char :=
  padded layout (match layout.precision with
    | some n => s.toList.take n
    | none => s.toList)

/-- A number with its sign, filled up to the width. Zeros go between the sign and the digits. -/
def signed (layout : Layout) (negative : Bool) (marker digits : List Char) : List Char :=
  let sign := if negative then ['-'] else if layout.plus then ['+']
    else if layout.blank then [' '] else []
  let front := sign ++ marker
  if layout.zeros && !layout.left then
    front ++ List.replicate (layout.width - front.length - digits.length) '0' ++ digits
  else padded layout (front ++ digits)

def wholeChars (layout : Layout) (base : Nat) (marker : List Char) (capital : Bool) (n : Int) :
    List Char :=
  let digits := Nat.toDigits base n.natAbs
  let digits := if capital then digits.map Char.toUpper else digits
  let digits := List.replicate (layout.precision.getD 0 - digits.length) '0' ++ digits
  signed layout (decide (n < 0)) (if layout.alternate then marker else []) digits

/-- The number nearest to `a / b`, of two the even one. -/
def roundedQuotient (a b : Nat) : Nat :=
  let q := a / b
  let twice := 2 * (a % b)
  if b < twice || (twice = b && q % 2 = 1) then q + 1 else q

def fixedDigits (places : Nat) (bits : Nat) : List Char :=
  let b := Decimal.binaryOfBits (bits % Nat.pow 2 63)
  let value := Decimal.Fraction.scaled 2 b.mantissa b.exponent
  let scaled := roundedQuotient (value.numerator * Nat.pow 10 places) value.denominator
  let digits := Nat.toDigits 10 scaled
  let digits := List.replicate (places + 1 - digits.length) '0' ++ digits
  let cut := digits.length - places
  digits.take cut ++ (if places = 0 then [] else '.' :: digits.drop cut)

/-- A decimal number with a fixed number of places, six unless the precision says otherwise. -/
def fixedChars (layout : Layout) (x : Float) : List Char :=
  let bits := x.toBits.toNat
  if x.isNaN then signed layout false [] "nan".toList
  else if x.isInf then signed layout (decide (Nat.pow 2 63 ≤ bits)) [] "inf".toList
  else signed layout (decide (Nat.pow 2 63 ≤ bits)) [] (fixedDigits (layout.precision.getD 6) bits)

def asciiLiteral (v : Value) : String :=
  String.ofList (v.literal.toList.flatMap fun c =>
    if c.toNat < 128 then [c] else Text.hiddenEscape c)

/-- A whole number for a field of whole numbers; a decimal one loses its fraction where that is
`allowed`. -/
def wholeOf (allowed : Bool) : Value → Except Misuse Int
  | .int n => .ok n
  | .bool b => .ok (if b then 1 else 0)
  | .float x => if allowed then (Value.float x).toInteger else .error .wrongKind
  | _ => .error .wrongKind

def characterOf : Value → Except Misuse Char
  | .text s =>
    match s.toList with
    | [c] => .ok c
    | _ => .error .wrongKind
  | v => do
    let n ← wholeOf false v
    if 0 ≤ n && n.toNat.isValidChar then return Char.ofNat n.toNat else throw .tooLarge

def written (layout : Layout) (letter : Char) (v : Value) : Except Misuse (List Char) :=
  if letter = 's' then .ok (textChars layout v.display)
  else if letter = 'r' then .ok (textChars layout v.literal)
  else if letter = 'a' then .ok (textChars layout (asciiLiteral v))
  else if letter = 'd' || letter = 'i' || letter = 'u' then
    (wholeOf true v).map (wholeChars layout 10 [] false)
  else if letter = 'x' then (wholeOf false v).map (wholeChars layout 16 ['0', 'x'] false)
  else if letter = 'X' then (wholeOf false v).map (wholeChars layout 16 ['0', 'X'] true)
  else if letter = 'o' then (wholeOf false v).map (wholeChars layout 8 ['0', 'o'] false)
  else if letter = 'c' then (characterOf v).map fun c => textChars layout c.toString
  else if letter = 'f' || letter = 'F' then
    match v with
    | .text _ => .error .wrongKind
    | v => v.toDecimal.map (fixedChars layout)
  else .error .badContent

/-! ## Filling -/

abbrev Names := Option (String → Option Value)

/-- The values at hand for a field: the named one, or those that are left. -/
def select (names : Names) (values : List Value) (cs : List Char) :
    Except Misuse (List Value × List Char) :=
  match cs with
  | '(' :: rest =>
    match names with
    | none => .error .wrongKind
    | some named =>
      match takeName 0 rest with
      | none => .error .badContent
      | some (name, after) =>
        match named (String.ofList name) with
        | some v => .ok ([v], after)
        | none => .error (.missingKey (.text (String.ofList name)))
  | cs => .ok (values, cs)

/-- A field after its percent sign, with the values that are left and what follows it. -/
def fillField (names : Names) (values : List Value) (cs : List Char) :
    Except Misuse (List Char × List Value × List Char) := do
  let (values, cs) ← select names values cs
  let (layout, cs) := takeFlags {} cs
  let (layout, values, cs) ← takeWidth layout values cs
  let (layout, values, cs) ← takePrecision layout values cs
  match dropSize cs with
  | [] => throw .badContent
  | letter :: rest =>
    if letter = '%' then return (['%'], values, rest)
    else
      let (v, others) ← next values
      return (← written layout letter v, others, rest)

def fillFrom (names : Names) : (fuel : Nat) → List Value → List Char →
    Except Misuse (List Char × List Value)
  | 0, values, _ => .ok ([], values)
  | _, values, [] => .ok ([], values)
  | fuel + 1, values, c :: rest => do
    if c = '%' then
      let (part, values, rest) ← fillField names values rest
      let (more, values) ← fillFrom names fuel values rest
      return (part ++ more, values)
    else
      let (more, values) ← fillFrom names fuel values rest
      return (c :: more, values)

def fillNamed (template : String) (named : String → Option Value) : Except Misuse String := do
  let cs := template.toList
  let (filled, _) ← fillFrom (some named) cs.length [.null] cs
  return String.ofList filled

/-- The template with values in order, all of which it has to use. A single mapping that is not
empty gives its values by name. Without any values the template stands for itself. -/
def fill (template : String) (values : List Value) : Except Misuse String := do
  let cs := template.toList
  match values with
  | [] => return template
  | [.mapping (entry :: rest)] =>
    let entries := entry :: rest
    let named (name : String) : Option Value := lookup? (.text name) entries
    let (filled, _) ← fillFrom (some named) cs.length [.mapping entries] cs
    return String.ofList filled
  | values =>
    let (filled, left) ← fillFrom none cs.length values cs
    if left.isEmpty then return String.ofList filled else throw .wrongKind

/-! ## Checking -/

/-- A character of a name. Beyond ASCII all characters but blanks are. -/
def isNameChar (c : Char) : Bool := c.isAlphanum || c = '_' || (128 ≤ c.toNat && !Text.isBlank c)

def letters : List Char := "diouxefgcrsa%".toList

def skipAmount (cs : List Char) : List Char :=
  match cs with
  | '*' :: rest => rest
  | cs => cs.dropWhile fun c => (Text.digitValue? c).isSome

def skipPrecision (cs : List Char) : List Char :=
  match cs with
  | '.' :: '*' :: rest => rest
  | '.' :: c :: rest => if (Text.digitValue? c).isSome then skipAmount rest else '.' :: c :: rest
  | cs => cs

def isNamedField (cs : List Char) : Bool :=
  match cs with
  | '(' :: rest =>
    match rest.takeWhile isNameChar, rest.dropWhile isNameChar with
    | _ :: _, ')' :: after =>
      let (_, afterFlags) := takeFlags {} after
      match skipPrecision (skipAmount afterFlags) with
      | letter :: _ => letters.contains letter.toLower
      | [] => false
    | _, _ => false
  | _ => false

def hasNamedFieldIn : List Char → Bool
  | [] => false
  | c :: rest => (c = '%' && isNamedField rest) || hasNamedFieldIn rest

def hasNamedField (template : String) : Bool := hasNamedFieldIn template.toList

end AccessSync.Template
