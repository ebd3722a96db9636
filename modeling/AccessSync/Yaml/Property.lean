import AccessSync.Yaml.Scalar

/-!
# Anchors, tags and directives as they are written

An anchor or an alias is a name. A tag is written in full between angle brackets, or as a suffix
after a handle that stands for the start of the tag. A directive is a line before a document that
gives the version of the language or the meaning of a handle.
-/

namespace AccessSync.Yaml

/-! ## Names -/

def isNameChar (c : Char) : Bool := c.isAlphanum || c = '-' || c = '_'

def takeName (cs : List Char) : Option Piece :=
  let name := cs.takeWhile isNameChar
  if name.isEmpty then none else some ⟨name, cs.dropWhile isNameChar⟩

/-- The name of an anchor or an alias may end before this text. -/
def endsAnchor : List Char → Bool
  | [] => true
  | c :: rest =>
    atGap (c :: rest) || ['?', ':', ',', ']', '\x7d', '%', '@', Char.ofNat 96].contains c

/-! ## Tags -/

/-- Before a blank, a line break or the end. A tab is no blank here. -/
def atBlank : List Char → Bool
  | [] => true
  | c :: _ => c = ' ' || isBreak c

def isTagChar (c : Char) : Bool :=
  isNameChar c || [';', '/', '?', ':', '@', '&', '=', '+', '$', ',', '.', '!', '~', '*', '\'', '(',
    ')', '[', ']'].contains c

def takeBytes : List Char → Option (List UInt8 × List Char)
  | '%' :: high :: low :: rest => do
    let byte := 16 * (← Text.hexValue? high) + (← Text.hexValue? low)
    let (bytes, after) ← takeBytes rest
    return (UInt8.ofNat byte :: bytes, after)
  | '%' :: _ => none
  | cs => some ([], cs)

def tagPartFrom : (fuel : Nat) → List Char → Option Piece
  | 0, _ => none
  | _, [] => some ⟨[], []⟩
  | fuel + 1, c :: rest =>
    if c = '%' then do
      -- A character may take several bytes, so that these are read together.
      let (bytes, after) ← takeBytes (c :: rest)
      let decoded ← String.fromUTF8? ⟨bytes.toArray⟩
      let more ← tagPartFrom fuel after
      return ⟨decoded.toList ++ more.chars, more.rest⟩
    else if isTagChar c then do
      let more ← tagPartFrom fuel rest
      return ⟨c :: more.chars, more.rest⟩
    else some ⟨[], c :: rest⟩

def takeTagPart (cs : List Char) : Option Piece := do
  let part ← tagPartFrom (cs.length + 1) cs
  if part.chars.isEmpty then none else return part

/-- The handle at the start of a text: an exclamation mark, or a name between two of them. -/
def takeHandle : List Char → Option Piece
  | '!' :: ' ' :: rest => some ⟨['!'], ' ' :: rest⟩
  | '!' :: rest =>
    match rest.dropWhile isNameChar with
    | '!' :: after => some ⟨'!' :: (rest.takeWhile isNameChar ++ ['!']), after⟩
    | _ => none
  | _ => none

/-- A tag as it is written: a handle, unless the tag is written in full, and what follows it. -/
structure WrittenTag where
  handle : Option String
  suffix : String
  deriving Inhabited, DecidableEq, Repr

def WrittenTag.plain : WrittenTag := ⟨none, "!"⟩

def takeTagFrom : List Char → Option (WrittenTag × List Char)
  | '<' :: rest => do
    let part ← takeTagPart rest
    match part.rest with
    | '>' :: after => return (⟨none, String.ofList part.chars⟩, after)
    | _ => none
  | cs =>
    if atGap cs then some (.plain, cs)
    else do
      let named := (cs.takeWhile fun c => c ≠ ' ' && !isBreak c).contains '!'
      let handle ← if named then takeHandle ('!' :: cs) else some ⟨['!'], cs⟩
      let part ← takeTagPart handle.rest
      return (⟨some (String.ofList handle.chars), String.ofList part.chars⟩, part.rest)

def takeTag (cs : List Char) : Option (WrittenTag × List Char) :=
  (takeTagFrom cs).filter fun (_, rest) => atBlank rest

/-! ## Directives -/

inductive Directive where
  | version (major : Nat)
  | handle (name start : String)
  | other
  deriving Inhabited, DecidableEq, Repr

/-- What follows the line, which holds nothing further but a comment. -/
def skipLine (cs : List Char) : Option (List Char) :=
  let rest := cs.dropWhile (· = ' ')
  let rest := if rest.head? = some '#' then rest.dropWhile (!isBreak ·) else rest
  match rest with
  | [] => some []
  | c :: after => if isBreak c then some after else none

def takeVersion (cs : List Char) : Option (Directive × List Char) := do
  let major := cs.takeWhile Char.isDigit
  match cs.dropWhile Char.isDigit with
  | '.' :: rest =>
    let after := rest.dropWhile Char.isDigit
    if major.isEmpty || after.length = rest.length || !atBlank after then none
    else return (.version (Text.digitsToNat 0 (major.filterMap Text.asciiDigit?)), after)
  | _ => none

def takeMeaning (cs : List Char) : Option (Directive × List Char) := do
  let handle ← takeHandle cs
  if handle.rest.head? = some ' ' then
    let start ← takeTagPart (handle.rest.dropWhile (· = ' '))
    if atBlank start.rest then
      return (.handle (String.ofList handle.chars) (String.ofList start.chars), start.rest)
    else none
  else none

def takeDirective (cs : List Char) : Option (Directive × List Char) := do
  let name ← takeName cs
  if atBlank name.rest then
    let content := name.rest.dropWhile (· = ' ')
    let (directive, rest) ←
      if name.chars = "YAML".toList then takeVersion content
      else if name.chars = "TAG".toList then takeMeaning content
      else some (.other, content.dropWhile (!isBreak ·))
    return (directive, ← skipLine rest)
  else none

end AccessSync.Yaml
