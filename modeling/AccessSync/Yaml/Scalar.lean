import AccessSync.Text.Digit
import AccessSync.Text.Quoted
import AccessSync.Text.Split

/-!
# Written scalars

A scalar of a configuration file is written plain or in quotes, possibly over several lines. Line
breaks inside it are folded: one break reads as a blank, of several the first one is left out.
The readers below take the characters of a scalar off a text; they answer nothing when the scalar
is malformed.
-/

namespace AccessSync.Yaml

/-! ## Characters -/

def isBreak (c : Char) : Bool := c = '\n' || c.toNat = 0x2028 || c.toNat = 0x2029

def isSpace (c : Char) : Bool := c = ' ' || c = '\t'

/-- A token that has to stand alone may end here: before a blank, a line break or the end. -/
def atGap : List Char → Bool
  | [] => true
  | c :: _ => isSpace c || isBreak c

def atMarker : List Char → Bool
  | '-' :: '-' :: '-' :: rest => atGap rest
  | '.' :: '.' :: '.' :: rest => atGap rest
  | _ => false

structure Piece where
  chars : List Char
  rest : List Char

/-- The line breaks that a fold keeps: a blank for a single one, otherwise all but the first. -/
def folded (first : Char) (others : List Char) : List Char :=
  if first ≠ '\n' then first :: others
  else if others.isEmpty then [' '] else others

/-! ## Plain scalars -/

def flowIndicators : List Char := [',', '?', '[', ']', '\x7b', '\x7d']

/-- A colon before this text separates a key from its value. -/
def endsKey (flow : Bool) : List Char → Bool
  | [] => true
  | c :: rest => atGap (c :: rest) || (flow && [',', '[', ']', '\x7b', '\x7d'].contains c)

def takeRun (flow : Bool) : List Char → Piece
  | [] => ⟨[], []⟩
  | c :: rest =>
    if isSpace c || isBreak c || (c = ':' && endsKey flow rest) ||
        (flow && flowIndicators.contains c) then
      ⟨[], c :: rest⟩
    else
      let run := takeRun flow rest
      ⟨c :: run.chars, run.rest⟩

structure Fold where
  chars : List Char
  rest : List Char
  crossed : Bool
  /-- The column after the space, if it goes over a line break. -/
  column : Nat

/-- The further line breaks and the indentation after a line break. A document marker ends the
scalar. -/
def foldLines (first : Char) (others : List Char) (column : Nat) : List Char → Fold
  | [] => ⟨folded first others.reverse, [], true, column⟩
  | c :: rest =>
    if c = ' ' then foldLines first others (column + 1) rest
    else if isBreak c then
      if atMarker rest then ⟨[], rest, true, 0⟩ else foldLines first (c :: others) 0 rest
    else ⟨folded first others.reverse, c :: rest, true, column⟩

def takeFold (cs : List Char) : Fold :=
  match cs.dropWhile (· = ' ') with
  | [] => ⟨cs.takeWhile (· = ' '), [], false, 0⟩
  | c :: rest =>
    if isBreak c then
      if atMarker rest then ⟨[], rest, true, 0⟩ else foldLines c [] 0 rest
    else ⟨cs.takeWhile (· = ' '), c :: rest, false, 0⟩

/-- A plain scalar, and whether it ends with a line break. In `flow` it stands in a collection in
brackets; elsewhere its further lines are indented by at least `indent`. -/
def plainFrom (flow : Bool) (indent : Int) :
    (fuel : Nat) → (space : Fold) → Piece × Bool
  | 0, space => (⟨[], space.rest⟩, space.crossed)
  | fuel + 1, space =>
    let run := takeRun flow space.rest
    if space.rest.head? = some '#' || run.chars.isEmpty then (⟨[], space.rest⟩, space.crossed)
    else
      let next := takeFold run.rest
      let before := space.chars ++ run.chars
      if next.chars.isEmpty || (!flow && next.crossed && decide ((next.column : Int) < indent)) then
        (⟨before, next.rest⟩, next.crossed)
      else
        let (more, crossed) := plainFrom flow indent fuel next
        (⟨before ++ more.chars, more.rest⟩, crossed)

def takePlain (flow : Bool) (indent : Int) (cs : List Char) : Piece × Bool :=
  plainFrom flow indent cs.length ⟨[], cs, false, 0⟩

/-! ## Quoted scalars -/

def letterEscapes : List (Char × Nat) := [
  ('0', 0), ('a', 7), ('b', 8), ('t', 9), ('\t', 9), ('n', 10), ('v', 11), ('f', 12), ('r', 13),
  ('e', 27), (' ', 32), ('"', 34), ('\\', 92), ('/', 47), ('N', 0x85), ('_', 0xa0), ('L', 0x2028),
  ('P', 0x2029)]

def codeWidth? : Char → Option Nat
  | 'x' => some 2
  | 'u' => some 4
  | 'U' => some 8
  | _ => none

def takeCode (width : Nat) (cs : List Char) : Option Piece := do
  let digits ← (cs.take width).mapM Text.hexValue?
  if digits.length < width then none
  else
    let code := digits.foldl (fun n d => 16 * n + d) 0
    if h : code.isValidChar then some ⟨[Char.ofNatAux code h], cs.drop width⟩ else none

/-- Blank lines inside a quoted scalar: the line breaks, without the space around them. A document
marker is malformed there. -/
def takeBlankLines : (fuel : Nat) → List Char → Option Piece
  | 0, _ => none
  | fuel + 1, cs =>
    if atMarker cs then none
    else match cs.dropWhile isSpace with
      | [] => some ⟨[], []⟩
      | c :: rest =>
        if isBreak c then
          (takeBlankLines fuel rest).map fun lines => ⟨c :: lines.chars, lines.rest⟩
        else some ⟨[], c :: rest⟩

def takeQuotedSpace (cs : List Char) : Option Piece :=
  match cs.dropWhile isSpace with
  | [] => none
  | c :: rest =>
    if isBreak c then
      (takeBlankLines (rest.length + 1) rest).map fun lines =>
        ⟨folded c lines.chars, lines.rest⟩
    else some ⟨cs.takeWhile isSpace, c :: rest⟩

def takeEscape : List Char → Option Piece
  | [] => none
  | c :: rest =>
    match letterEscapes.lookup c, codeWidth? c with
    | some code, _ => some ⟨[Char.ofNat code], rest⟩
    | none, some width => takeCode width rest
    | none, none => if isBreak c then takeBlankLines (rest.length + 1) rest else none

/-- The next part of a quoted scalar, or nothing when the quote closes. -/
def quotedPart (double : Bool) (c : Char) (rest : List Char) : Option (Option Piece) :=
  if isSpace c || isBreak c then (takeQuotedSpace (c :: rest)).map some
  else if double then
    if c = '"' then some none
    else if c = '\\' then (takeEscape rest).map some
    else some (some ⟨[c], rest⟩)
  else if c = '\'' then
    match rest with
    | '\'' :: after => some (some ⟨['\''], after⟩)
    | _ => some none
  else some (some ⟨[c], rest⟩)

def quotedFrom (double : Bool) : (fuel : Nat) → List Char → Option Piece
  | 0, _ => none
  | _, [] => none
  | fuel + 1, c :: rest => do
    match ← quotedPart double c rest with
    | none => return ⟨[], rest⟩
    | some part =>
      let more ← quotedFrom double fuel part.rest
      return ⟨part.chars ++ more.chars, more.rest⟩

def takeQuoted (double : Bool) (cs : List Char) : Option Piece :=
  quotedFrom double (cs.length + 1) cs

end AccessSync.Yaml
