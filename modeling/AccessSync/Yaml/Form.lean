import AccessSync.Yaml.Token

/-!
# Forms of configuration files

The tree that the tokens of a text spell, with the names and tags as they are written. A text holds
one document.
-/

namespace AccessSync.Yaml

structure Properties where
  anchor : Option String
  tag : Option WrittenTag

def Properties.unsaid : Properties := ⟨none, none⟩

/-- A scalar or a collection as it is written, or the name of one that was written before. -/
inductive Form where
  | alias (name : String)
  | scalar (properties : Properties) (text : String) (plain : Bool)
  | items (properties : Properties) (forms : List Form)
  | entries (properties : Properties) (pairs : List (Form × Form))

def Form.blank : Form := .scalar .unsaid "" true

def takeProperties : List Token → Properties × List Token
  | .anchor name :: .tag tag :: rest | .tag tag :: .anchor name :: rest =>
    (⟨some name, some tag⟩, rest)
  | .anchor name :: rest => (⟨some name, none⟩, rest)
  | .tag tag :: rest => (⟨none, some tag⟩, rest)
  | ts => (.unsaid, ts)

def isBlankBefore (ends : List Token) (ts : List Token) : Bool :=
  match ts with
  | [] => false
  | t :: _ => ends.contains t

def afterComma (first : Bool) (ts : List Token) : Option (List Token) :=
  if first then some ts
  else match ts with
    | .comma :: rest => some rest
    | _ => none

mutual

/-- The form at the start of the tokens. Collections by indentation are `allowed` outside of
brackets only, and items without an indentation of their own as values of a key only. -/
def parseForm (allowed bare : Bool) : (fuel : Nat) → List Token → Option (Form × List Token)
  | 0, _ => none
  | fuel + 1, ts =>
    match ts with
    | .alias name :: rest => some (.alias name, rest)
    | ts =>
      let (properties, rest) := takeProperties ts
      parseContent properties allowed bare fuel rest

/-- The form after its properties, of which there have to be some if it has no content. -/
def parseContent (properties : Properties) (allowed bare : Bool) :
    (fuel : Nat) → List Token → Option (Form × List Token)
  | 0, _ => none
  | fuel + 1, ts =>
    let absent : Option (Form × List Token) :=
      if properties.anchor.isNone && properties.tag.isNone then none
      else some (.scalar properties "" true, ts)
    match ts with
    | .scalar text plain :: rest => some (.scalar properties text plain, rest)
    | .openList :: rest => do
      let (forms, after) ← parseList true fuel rest
      return (.items properties forms, after)
    | .openMapping :: rest => do
      let (pairs, after) ← parseMapping true fuel rest
      return (.entries properties pairs, after)
    | .item :: _ =>
      if bare then do
        let (forms, after) ← parseBareItems fuel ts
        return (.items properties forms, after)
      else absent
    | .openItems :: rest =>
      if allowed then do
        let (forms, after) ← parseItems fuel rest
        return (.items properties forms, after)
      else absent
    | .openEntries :: rest =>
      if allowed then do
        let (pairs, after) ← parseEntries fuel rest
        return (.entries properties pairs, after)
      else absent
    | _ => absent

def parseOptional (ends : List Token) (allowed bare : Bool) :
    (fuel : Nat) → List Token → Option (Form × List Token)
  | 0, _ => none
  | fuel + 1, ts =>
    if isBlankBefore ends ts then some (.blank, ts) else parseForm allowed bare fuel ts

def parseItems : (fuel : Nat) → List Token → Option (List Form × List Token)
  | 0, _ => none
  | fuel + 1, ts =>
    match ts with
    | .close :: rest => some ([], rest)
    | .item :: rest => do
      let (form, after) ← parseOptional [.item, .close] true false fuel rest
      let (others, last) ← parseItems fuel after
      return (form :: others, last)
    | _ => none

/-- Items at the indentation of the key whose value they are. -/
def parseBareItems : (fuel : Nat) → List Token → Option (List Form × List Token)
  | 0, _ => none
  | fuel + 1, ts =>
    match ts with
    | .item :: rest => do
      let (form, after) ← parseOptional [.item, .key, .value, .close] true false fuel rest
      let (others, last) ← parseBareItems fuel after
      return (form :: others, last)
    | ts => some ([], ts)

def parseValue (ends : List Token) (allowed : Bool) :
    (fuel : Nat) → List Token → Option (Form × List Token)
  | 0, _ => none
  | fuel + 1, ts =>
    match ts with
    | .value :: rest => parseOptional ends allowed allowed fuel rest
    | ts => some (.blank, ts)

def parseEntries : (fuel : Nat) → List Token → Option (List (Form × Form) × List Token)
  | 0, _ => none
  | fuel + 1, ts =>
    match ts with
    | .close :: rest => some ([], rest)
    | .key :: rest => do
      let (key, afterKey) ← parseOptional [.key, .value, .close] true true fuel rest
      let (value, after) ← parseValue [.key, .value, .close] true fuel afterKey
      let (others, last) ← parseEntries fuel after
      return ((key, value) :: others, last)
    | _ => none

/-- The items of a list in brackets; a key with a value is an item too. -/
def parseList (first : Bool) :
    (fuel : Nat) → List Token → Option (List Form × List Token)
  | 0, _ => none
  | fuel + 1, ts =>
    match ts with
    | .closeList :: rest => some ([], rest)
    | ts => do
      match ← afterComma first ts with
      | .closeList :: rest => return ([], rest)
      | .key :: rest =>
        let (key, afterKey) ← parseOptional [.value, .comma, .closeList] false false fuel rest
        let (value, after) ← parseValue [.comma, .closeList] false fuel afterKey
        let (others, last) ← parseList false fuel after
        return (.entries .unsaid [(key, value)] :: others, last)
      | ts =>
        let (form, after) ← parseForm false false fuel ts
        let (others, last) ← parseList false fuel after
        return (form :: others, last)

/-- The entries of a mapping in brackets; a key may lack its value. -/
def parseMapping (first : Bool) :
    (fuel : Nat) → List Token → Option (List (Form × Form) × List Token)
  | 0, _ => none
  | fuel + 1, ts =>
    match ts with
    | .closeMapping :: rest => some ([], rest)
    | ts => do
      match ← afterComma first ts with
      | .closeMapping :: rest => return ([], rest)
      | .key :: rest =>
        let (key, afterKey) ← parseOptional [.value, .comma, .closeMapping] false false fuel rest
        let (value, after) ← parseValue [.comma, .closeMapping] false fuel afterKey
        let (others, last) ← parseMapping false fuel after
        return ((key, value) :: others, last)
      | ts =>
        let (key, after) ← parseForm false false fuel ts
        let (others, last) ← parseMapping false fuel after
        return ((key, .blank) :: others, last)

end

/-! ## Documents -/

abbrev Handles := List (String × String)

def standardHandles : Handles := [("!", "!"), ("!!", "tag:yaml.org,2002:")]

/-- The directives at the start of the tokens. At most one gives the version, which is one of the
first generation, and no two of them give the meaning of the same handle. -/
def takeDirectives (versioned : Bool) (handles : Handles) :
    List Token → Option (Handles × List Token)
  | .directive (.version major) :: rest =>
    if versioned || major ≠ 1 then none else takeDirectives true handles rest
  | .directive (.handle name start) :: rest =>
    if (handles.lookup name).isSome then none
    else takeDirectives versioned ((name, start) :: handles) rest
  | .directive .other :: rest => takeDirectives versioned handles rest
  | ts => some (handles ++ standardHandles, ts)

structure Document where
  form : Form
  handles : Handles

/-- The document at the start of the tokens. Only one without directives may start unmarked. -/
def parseDocument (fuel : Nat) (ts : List Token) : Option (Document × List Token) := do
  let (handles, content) ← takeDirectives false [] ts
  match content with
  | .documentStart :: rest =>
    match rest with
    | [] | .documentStart :: _ | .documentEnd :: _ => return (⟨.blank, handles⟩, rest)
    | rest =>
      let (form, after) ← parseForm true false fuel rest
      return (⟨form, handles⟩, after)
  | content =>
    -- A document after directives has to be marked.
    if content.length = ts.length then
      let (form, after) ← parseForm true false fuel content
      return (⟨form, handles⟩, after)
    else none

/-- The document that tokens spell; nothing when they spell none or several documents. -/
def Document.ofTokens? : List Token → Option Document
  | [] => some ⟨.blank, []⟩
  | ts => do
    let (document, rest) ← parseDocument (5 * ts.length + 5) ts
    if (rest.dropWhile (· == .documentEnd)).isEmpty then return document else none

end AccessSync.Yaml
