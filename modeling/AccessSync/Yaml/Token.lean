import AccessSync.Yaml.Block

/-!
# Tokens of configuration files

The tokens of a text in order. Indentation becomes tokens too: a collection written by indentation
opens at its first entry and ends before the first token that is indented less.

A scalar or collection is known to be a key only when a colon follows it. Until then it is a
candidate, one for each depth of brackets; the position of a candidate that proves to be a key is
noted, and `withKeys` puts the key tokens in when all tokens are known.
-/

namespace AccessSync.Yaml

inductive Token where
  | directive (directive : Directive)
  | anchor (name : String)
  | alias (name : String)
  | tag (tag : WrittenTag)
  | scalar (text : String) (plain : Bool)
  | key
  | value
  | item
  | comma
  | openItems
  | openEntries
  /-- The end of a collection that was opened by indentation. -/
  | close
  | openList
  | closeList
  | openMapping
  | closeMapping
  | documentStart
  | documentEnd
  deriving Inhabited, DecidableEq, Repr

structure Candidate where
  /-- The number of tokens before it. -/
  position : Nat
  /-- Nothing but a key can stand there. -/
  required : Bool
  offset : Nat
  line : Nat
  column : Nat
  deriving Inhabited

structure Lexer where
  rest : List Char
  offset : Nat
  line : Nat
  column : Nat
  depth : Nat
  /-- The indentation of the innermost collection, -1 outside of any. -/
  indent : Int
  outer : List Int
  keyAllowed : Bool
  candidates : List (Nat × Candidate)
  tokens : List Token
  /-- The positions of keys, with whether a collection opens there. -/
  keys : List (Nat × Bool)

namespace Lexer

def start (cs : List Char) : Lexer where
  rest := cs
  offset := 0
  line := 0
  column := 0
  depth := 0
  indent := -1
  outer := []
  keyAllowed := true
  candidates := []
  tokens := []
  keys := []

def pass (l : Lexer) (c : Char) : Lexer :=
  if isBreak c then { l with offset := l.offset + 1, line := l.line + 1, column := 0 }
  -- A byte order mark takes no column.
  else if c.toNat = 0xfeff then { l with offset := l.offset + 1 }
  else { l with offset := l.offset + 1, column := l.column + 1 }

/-- The lexer with everything before `rest` read. -/
def moveTo (l : Lexer) (rest : List Char) : Lexer :=
  (l.rest.take (l.rest.length - rest.length)).foldl pass { l with rest }

def inFlow (l : Lexer) : Bool := l.depth != 0

def emit (l : Lexer) (t : Token) : Lexer := { l with tokens := t :: l.tokens }

def candidate? (l : Lexer) : Option Candidate := l.candidates.lookup l.depth

/-- Forgets the candidate at the present depth, unless it has to be a key. -/
def dropCandidate (l : Lexer) : Option Lexer :=
  match l.candidate? with
  | none => some l
  | some candidate =>
    -- What starts a line of a mapping and is not a key after all makes the text malformed.
    if candidate.required then none
    else some { l with candidates := l.candidates.filter (·.1 != l.depth) }

/-- A key stands on one line and within so many characters. -/
def longestKey : Nat := 1024

def isStale (l : Lexer) (candidate : Candidate) : Bool :=
  candidate.line != l.line || decide (longestKey < l.offset - candidate.offset)

def dropStale (l : Lexer) : Option Lexer :=
  if l.candidates.any fun (_, candidate) => isStale l candidate && candidate.required then none
  else some { l with candidates := l.candidates.filter fun (_, candidate) => !isStale l candidate }

/-- Makes the next token a candidate, where a key may stand. -/
def markCandidate (l : Lexer) : Option Lexer := do
  if l.keyAllowed then
    let l ← l.dropCandidate
    let candidate : Candidate := {
      position := l.tokens.length
      required := !l.inFlow && l.indent == (l.column : Int)
      offset := l.offset
      line := l.line
      column := l.column }
    return { l with candidates := (l.depth, candidate) :: l.candidates }
  else return l

def closeFrom (column : Int) : List Int → Lexer → Lexer
  | [], l => l
  | outer :: rest, l =>
    if column < l.indent then
      closeFrom column rest { l.emit .close with indent := outer, outer := rest }
    else l

def unwind (l : Lexer) (column : Int) : Lexer :=
  if l.inFlow then l else closeFrom column l.outer l

/-- Opens a collection at a column, unless one is open there, and says whether it did. -/
def indentTo (l : Lexer) (column : Nat) : Lexer × Bool :=
  if l.indent < (column : Int) then
    ({ l with indent := column, outer := l.indent :: l.outer }, true)
  else (l, false)

def indicator (l : Lexer) (n : Nat) (t : Token) : Lexer := (l.moveTo (l.rest.drop n)).emit t

/-! ## Tokens by their first character -/

def marker (l : Lexer) (t : Token) : Option Lexer := do
  let l ← (l.unwind (-1)).dropCandidate
  return ({ l with keyAllowed := false }).indicator 3 t

def directive (l : Lexer) : Option Lexer := do
  let l ← (l.unwind (-1)).dropCandidate
  let (directive, rest) ← takeDirective (l.rest.drop 1)
  return (({ l with keyAllowed := false }).moveTo rest).emit (.directive directive)

def openBracket (l : Lexer) (t : Token) : Option Lexer := do
  let l ← l.markCandidate
  return ({ l with depth := l.depth + 1, keyAllowed := true }).indicator 1 t

def closeBracket (l : Lexer) (t : Token) : Option Lexer := do
  let l ← l.dropCandidate
  if l.inFlow then
    return ({ l with depth := l.depth - 1, keyAllowed := false }).indicator 1 t
  else none

def separator (l : Lexer) : Option Lexer := do
  if l.inFlow then
    return (← ({ l with keyAllowed := true }).dropCandidate).indicator 1 .comma
  else none

def dash (l : Lexer) : Option Lexer := do
  if l.inFlow || !l.keyAllowed then none
  else
    let (l, opened) := l.indentTo l.column
    let l := if opened then l.emit .openItems else l
    return (← ({ l with keyAllowed := true }).dropCandidate).indicator 1 .item

def question (l : Lexer) : Option Lexer := do
  if !l.inFlow && !l.keyAllowed then none
  else
    let (l, opened) := if l.inFlow then (l, false) else l.indentTo l.column
    let l := if opened then l.emit .openEntries else l
    return (← ({ l with keyAllowed := !l.inFlow }).dropCandidate).indicator 1 .key

def colonAfter (l : Lexer) (key : Candidate) : Lexer :=
  let l := { l with candidates := l.candidates.filter (·.1 != l.depth) }
  -- The mapping opens where its first key began, which is noted under the position of the key.
  let (l, opened) := if l.inFlow then (l, false) else l.indentTo key.column
  ({ l with keys := (key.position, opened) :: l.keys, keyAllowed := false }).indicator 1 .value

def colonAlone (l : Lexer) : Option Lexer := do
  if !l.inFlow && !l.keyAllowed then none
  else
    let (l, opened) := if l.inFlow then (l, false) else l.indentTo l.column
    let l := if opened then l.emit .openEntries else l
    return (← ({ l with keyAllowed := !l.inFlow }).dropCandidate).indicator 1 .value

def colon (l : Lexer) : Option Lexer :=
  match l.candidate? with
  | some key => some (l.colonAfter key)
  | none => l.colonAlone

def anchored (l : Lexer) (t : String → Token) : Option Lexer := do
  let l ← l.markCandidate
  let name ← takeName (l.rest.drop 1)
  if endsAnchor name.rest then
    return (({ l with keyAllowed := false }).moveTo name.rest).emit (t (String.ofList name.chars))
  else none

def tagged (l : Lexer) : Option Lexer := do
  let l ← l.markCandidate
  let (tag, rest) ← takeTag (l.rest.drop 1)
  return (({ l with keyAllowed := false }).moveTo rest).emit (.tag tag)

def block (l : Lexer) (folds : Bool) : Option Lexer := do
  let l ← l.dropCandidate
  let piece ← takeBlock folds l.indent (l.rest.drop 1)
  return (({ l with keyAllowed := true }).moveTo piece.rest).emit
    (.scalar (String.ofList piece.chars) false)

def quoted (l : Lexer) (double : Bool) : Option Lexer := do
  let l ← l.markCandidate
  let piece ← takeQuoted double (l.rest.drop 1)
  return (({ l with keyAllowed := false }).moveTo piece.rest).emit
    (.scalar (String.ofList piece.chars) false)

def plain (l : Lexer) : Option Lexer := do
  let l ← l.markCandidate
  let (piece, crossed) := takePlain l.inFlow (l.indent + 1) l.rest
  return (({ l with keyAllowed := crossed }).moveTo piece.rest).emit
    (.scalar (String.ofList piece.chars) true)

def indicators : List Char :=
  ['-', '?', ':', ',', '[', ']', '\x7b', '\x7d', '#', '&', '*', '!', '|', '>', '\'', '"', '%', '@',
    Char.ofNat 96]

def startsPlain (l : Lexer) (c : Char) (rest : List Char) : Bool :=
  (!isSpace c && !isBreak c && !indicators.contains c) ||
    (!atGap rest && (c = '-' || (!l.inFlow && (c = '?' || c = ':'))))

def token (l : Lexer) (c : Char) (rest : List Char) : Option Lexer :=
  if c = '%' && l.column = 0 then l.directive
  else if l.column = 0 && atMarker l.rest then
    l.marker (if c = '-' then .documentStart else .documentEnd)
  else if c = '[' then l.openBracket .openList
  else if c = '\x7b' then l.openBracket .openMapping
  else if c = ']' then l.closeBracket .closeList
  else if c = '\x7d' then l.closeBracket .closeMapping
  else if c = ',' then l.separator
  else if c = '-' && atGap rest then l.dash
  else if c = '?' && (l.inFlow || atGap rest) then l.question
  else if c = ':' && (l.inFlow || atGap rest) then l.colon
  else if c = '*' then l.anchored .alias
  else if c = '&' then l.anchored .anchor
  else if c = '!' then l.tagged
  else if c = '|' && !l.inFlow then l.block false
  else if c = '>' && !l.inFlow then l.block true
  else if c = '\'' then l.quoted false
  else if c = '"' then l.quoted true
  else if l.startsPlain c rest then l.plain
  else none

/-! ## All tokens -/

/-- What follows the space and the comments at the start of a text, and whether they go over a
line break. -/
def skipSpace (comment crossed : Bool) : List Char → List Char × Bool
  | [] => ([], crossed)
  | c :: rest =>
    if isBreak c then skipSpace false true rest
    else if comment then skipSpace true crossed rest
    else if c = ' ' then skipSpace false crossed rest
    else if c = '#' then skipSpace true crossed rest
    else (c :: rest, crossed)

def toToken (l : Lexer) : Option Lexer := do
  let (rest, crossed) := skipSpace false false l.rest
  let l := l.moveTo rest
  -- On a new line a key may stand again.
  let l := if crossed && !l.inFlow then { l with keyAllowed := true } else l
  let l ← l.dropStale
  return l.unwind l.column

def finish (l : Lexer) : Option Lexer := (l.unwind (-1)).dropCandidate

def readAll : (fuel : Nat) → Lexer → Option Lexer
  | 0, _ => none
  | fuel + 1, l => do
    let l ← l.toToken
    match l.rest with
    | [] => l.finish
    | c :: rest => readAll fuel (← l.token c rest)

end Lexer

/-- The tokens from a position on, with the tokens of keys put in. -/
def withKeys (keys : List (Nat × Bool)) : (position : Nat) → List Token → List Token
  | _, [] => []
  | position, t :: rest =>
    let others := t :: withKeys keys (position + 1) rest
    match keys.lookup position with
    | some true => .openEntries :: .key :: others
    | some false => .key :: others
    | none => others

def isPrintable (c : Char) : Bool :=
  let n := c.toNat
  n = 9 || n = 10 || n = 13 || (32 ≤ n && n ≤ 126) || n = 133 || (160 ≤ n && n ≤ 0xfffd) ||
    0x10000 ≤ n

def unifyBreaks : List Char → List Char
  | [] => []
  | '\r' :: '\n' :: rest => '\n' :: unifyBreaks rest
  | c :: rest => (if c = '\r' || c.toNat = 133 then '\n' else c) :: unifyBreaks rest

def withoutMark : List Char → List Char
  | c :: rest => if c.toNat = 0xfeff then rest else c :: rest
  | [] => []

def tokens? (s : String) : Option (List Token) := do
  let cs := withoutMark (unifyBreaks s.toList)
  if cs.all isPrintable then
    let l ← Lexer.readAll (cs.length + 1) (.start cs)
    return withKeys l.keys 0 l.tokens.reverse
  else none

end AccessSync.Yaml
