import AccessSync.Yaml.Property

/-!
# Scalars over several lines

A bar or an angle bracket introduces the lines of a scalar. They are indented alike; what they are
indented by is said by a number, or read off the first line that is not blank. After a bar every
line break is kept. After an angle bracket a break between two lines reads as a blank, and of
several the first one is left out, except around lines that are indented further.

The breaks at the end are kept after a plus sign, left out after a minus sign, and without a sign
one of them is kept.
-/

namespace AccessSync.Yaml

structure BlockHeader where
  /-- The breaks at the end are kept, or left out. -/
  keepsEnd : Option Bool
  increment : Option Nat
  rest : List Char

def takeSign : List Char → Option Bool × List Char
  | '+' :: rest => (some true, rest)
  | '-' :: rest => (some false, rest)
  | cs => (none, cs)

/-- The indentation beside that of the surroundings, which is not zero. -/
def takeIncrement : List Char → Option (Option Nat × List Char)
  | [] => some (none, [])
  | c :: rest =>
    match Text.asciiDigit? c with
    | some 0 => none
    | some n => some (some n, rest)
    | none => some (none, c :: rest)

/-- The header of a block, after the bar. Sign and number stand in either order. -/
def takeHeader (cs : List Char) : Option BlockHeader := do
  let (before, rest) := takeSign cs
  let (increment, rest) ← takeIncrement rest
  let (after, rest) := if before.isNone then takeSign rest else (none, rest)
  if atBlank rest then
    return ⟨before.or after, increment, ← skipLine rest⟩
  else none

structure Margin where
  breaks : List Char
  rest : List Char
  column : Nat
  /-- The furthest column that was reached on any of the lines. -/
  deepest : Nat

/-- The margin at the start of a text; blanks beyond column `limit` belong to the line. -/
def takeMargin (limit column deepest : Nat) : List Char → Margin
  | [] => ⟨[], [], column, deepest⟩
  | c :: rest =>
    if c = ' ' && column < limit then
      takeMargin limit (column + 1) (max deepest (column + 1)) rest
    else if isBreak c then
      let next := takeMargin limit 0 deepest rest
      { next with breaks := c :: next.breaks }
    else ⟨[], c :: rest, column, deepest⟩

def startsFlush : List Char → Bool
  | [] => true
  | c :: _ => !isSpace c

/-- The lines of a block, with what follows the last of them. -/
structure BlockLines where
  chars : List Char
  last : List Char
  breaks : List Char
  rest : List Char

def Margin.leadsOn (m : Margin) (indent : Nat) : Bool := m.column = indent && !m.rest.isEmpty

def joint (folds : Bool) (line lineBreak : List Char) (next : Margin) : List Char :=
  if folds && lineBreak = ['\n'] && startsFlush line && startsFlush next.rest then
    if next.breaks.isEmpty then [' '] else []
  else lineBreak

def blockLines (folds : Bool) (indent : Nat) : (fuel : Nat) → Margin → BlockLines
  | 0, m => ⟨[], [], m.breaks, m.rest⟩
  | fuel + 1, m =>
    let line := m.rest.takeWhile (!isBreak ·)
    let after := m.rest.dropWhile (!isBreak ·)
    let next := takeMargin indent 0 0 (after.drop 1)
    if next.leadsOn indent then
      let more := blockLines folds indent fuel next
      let between := joint folds line (after.take 1) next
      { more with chars := m.breaks ++ line ++ between ++ more.chars }
    else ⟨m.breaks ++ line, after.take 1, next.breaks, next.rest⟩

/-- A scalar after a bar or an angle bracket, in a collection that is indented by `indent`. -/
def takeBlock (folds : Bool) (indent : Int) (cs : List Char) : Option Piece := do
  let header ← takeHeader cs
  let least := (max 1 (indent + 1)).toNat
  let limit := match header.increment with
    | some n => least + n - 1
    | none => cs.length
  let first := takeMargin limit 0 0 header.rest
  let margin := match header.increment with
    | some n => least + n - 1
    | none => max least first.deepest
  let lines :=
    if first.leadsOn margin then blockLines folds margin cs.length first
    else ⟨[], [], first.breaks, first.rest⟩
  let last := if header.keepsEnd = some false then [] else lines.last
  let breaks := if header.keepsEnd = some true then lines.breaks else []
  return ⟨lines.chars ++ last ++ breaks, lines.rest⟩

end AccessSync.Yaml
