/-!
# Shortest decimal text of a double

A double is written with the fewest digits that read back as the same double; among those the
digits nearest to it are taken. `Binary.shortest` finds the digits in exact arithmetic,
`Decimal.text` sets the point.
-/

namespace AccessSync.Decimal

/-- The number `mantissa * 2 ^ exponent`. -/
structure Binary where
  mantissa : Nat
  exponent : Int

/-- The number `coefficient * 10 ^ exponent`. -/
structure Digits where
  coefficient : Nat
  exponent : Int

structure Fraction where
  numerator : Nat
  denominator : Nat

def Fraction.scaled (base mantissa : Nat) : (exponent : Int) → Fraction
  | .ofNat e => ⟨mantissa * Nat.pow base e, 1⟩
  | .negSucc e => ⟨mantissa, Nat.pow base (e + 1)⟩

def Fraction.le (a b : Fraction) : Bool :=
  a.numerator * b.denominator ≤ b.numerator * a.denominator

def Fraction.floorAt (a : Fraction) : (exponent : Int) → Nat
  | .ofNat e => a.numerator / (a.denominator * Nat.pow 10 e)
  | .negSucc e => a.numerator * Nat.pow 10 (e + 1) / a.denominator

/-- The numbers that round to a given double. -/
structure Rounding where
  lowest : Fraction
  highest : Fraction
  /-- The ends round to the double too. -/
  closed : Bool

/-- The interval of a double: half a unit to either side, and only a quarter below a power of
two, where the units change. -/
def Binary.rounding (b : Binary) : Rounding where
  lowest :=
    let below := if b.mantissa = Nat.pow 2 52 && b.exponent != -1074 then 1 else 2
    .scaled 2 (4 * b.mantissa - below) (b.exponent - 2)
  highest := .scaled 2 (4 * b.mantissa + 2) (b.exponent - 2)
  closed := b.mantissa % 2 == 0

def Rounding.holds (r : Rounding) (d : Digits) : Bool :=
  let x := Fraction.scaled 10 d.coefficient d.exponent
  if r.closed then r.lowest.le x && x.le r.highest
  else !x.le r.lowest && !r.highest.le x

def digitCount (n : Nat) : Nat :=
  (Nat.toDigits 10 n).length

/-- The exponent of the leading decimal digit of a positive fraction below one, looked for among
the first `fuel` places after the point. -/
def leadingPlace (a : Fraction) : (fuel : Nat) → (place : Nat) → Nat
  | 0, place => place
  | fuel + 1, place =>
    if a.denominator ≤ a.numerator * Nat.pow 10 place then place
    else leadingPlace a fuel (place + 1)

def Fraction.magnitude (a : Fraction) : Int :=
  if a.denominator ≤ a.numerator then (digitCount (a.numerator / a.denominator) - 1 : Nat)
  else -(leadingPlace a 400 1 : Int)

/-- The point of the grid `10 ^ exponent` that reads back as the double, the nearer of two. -/
def Binary.onGrid? (b : Binary) (exponent : Int) : Option Digits :=
  let value := Fraction.scaled 2 b.mantissa b.exponent
  let below : Digits := ⟨value.floorAt exponent, exponent⟩
  let above : Digits := ⟨below.coefficient + 1, exponent⟩
  match b.rounding.holds below, b.rounding.holds above with
  | true, false => some below
  | false, true => some above
  | false, false => none
  | true, true =>
    let middle := Fraction.scaled 10 (10 * below.coefficient + 5) (exponent - 1)
    let roundsDown := if middle.le value then
        value.le middle && below.coefficient % 2 == 0
      else true
    some (if roundsDown then below else above)

/-- The first grid with a point that reads back, from one digit on. -/
def Binary.search (b : Binary) (magnitude : Int) : (fuel : Nat) → (digits : Nat) → Digits
  | 0, digits =>
    let exponent := magnitude - digits + 1
    ⟨(Fraction.scaled 2 b.mantissa b.exponent).floorAt exponent, exponent⟩
  | fuel + 1, digits =>
    match b.onGrid? (magnitude - digits + 1) with
    | some found => found
    | none => b.search magnitude fuel (digits + 1)

/-- The fewest digits that read back as the positive double. -/
def Binary.shortest (b : Binary) : Digits :=
  b.search (Fraction.scaled 2 b.mantissa b.exponent).magnitude 17 1

def trimZeros (digits : List Char) : List Char :=
  (digits.reverse.dropWhile (· = '0')).reverse

/-- Numbers from `10 ^ -4` up to `10 ^ 16` are written with a point, others with a power of ten
of at least two digits; a whole number keeps one zero after its point. -/
def Digits.text (d : Digits) : String :=
  let written := Nat.toDigits 10 d.coefficient
  let point : Int := written.length + d.exponent
  let digits := trimZeros written
  let count := digits.length
  if -4 < point && point ≤ 16 then
    if point ≤ 0 then String.ofList ('0' :: '.' :: List.replicate (-point).toNat '0' ++ digits)
    else if count ≤ point.toNat then
      String.ofList (digits ++ List.replicate (point.toNat - count) '0' ++ ['.', '0'])
    else String.ofList (digits.take point.toNat ++ '.' :: digits.drop point.toNat)
  else
    let power := point - 1
    let sign := if power < 0 then '-' else '+'
    let powerDigits := Nat.toDigits 10 power.natAbs
    let padded := if powerDigits.length < 2 then '0' :: powerDigits else powerDigits
    let fraction := if digits.length ≤ 1 then [] else '.' :: digits.drop 1
    String.ofList (digits.take 1 ++ fraction ++ 'e' :: sign :: padded)

/-- The mantissa and exponent of a finite double, sign apart. -/
def binaryOfBits (bits : Nat) : Binary :=
  let exponent : Nat := bits / Nat.pow 2 52 % Nat.pow 2 11
  let fraction : Nat := bits % Nat.pow 2 52
  if exponent = 0 then ⟨fraction, -1074⟩ else ⟨fraction + Nat.pow 2 52, (exponent : Int) - 1075⟩

def signedBy (bits size : Nat) : Int :=
  if Nat.pow 2 63 ≤ bits then -(size : Int) else size

/-- The bits are those of a number, and not those of an infinity or of no number at all. -/
def isFiniteBits (bits : Nat) : Bool := bits / Nat.pow 2 52 % Nat.pow 2 11 != 2047

def wholePartOfBits (bits : Nat) : Int :=
  let b := binaryOfBits bits
  signedBy bits ((Fraction.scaled 2 b.mantissa b.exponent).floorAt 0)

def wholeOfBits? (bits : Nat) : Option Int :=
  let b := binaryOfBits bits
  let size := Fraction.scaled 2 b.mantissa b.exponent
  if isFiniteBits bits && size.numerator % size.denominator = 0 then some (wholePartOfBits bits)
  else none

def text (x : Float) : String :=
  if x.isNaN then "nan"
  else
    let bits := x.toBits.toNat
    let sign := if Nat.pow 2 63 ≤ bits then "-" else ""
    if x.isInf then sign ++ "inf"
    else
      let b := binaryOfBits bits
      if b.mantissa = 0 then sign ++ "0.0" else sign ++ b.shortest.text

/-- The double nearest to `coefficient * 10 ^ exponent`. Far outside the range of doubles the
answer is zero or infinity, without computing the power. -/
def toFloat (d : Digits) : Float :=
  if d.coefficient = 0 then 0.0
  else
    let magnitude := d.exponent + digitCount d.coefficient
    if magnitude < -400 then 0.0
    else if 400 < magnitude then 1.0 / 0.0
    else match d.exponent with
      | .ofNat e => Float.ofScientific d.coefficient false e
      | .negSucc e => Float.ofScientific d.coefficient true (e + 1)

end AccessSync.Decimal
