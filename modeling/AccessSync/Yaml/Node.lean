import AccessSync.Yaml.Form
import AccessSync.Yaml.Tag

/-!
# Nodes of configuration files

A node is a form whose tag is known and in which every name is replaced by what it stands for. No
name may be given twice, and none may be used before the node that it names has ended: a collection
that holds itself has no value of finite size and counts as malformed.
-/

namespace AccessSync.Yaml

inductive Node where
  | scalar (tag : Tag) (text : String)
  | items (tag : Tag) (nodes : List Node)
  | entries (tag : Tag) (pairs : List (Node × Node))
  deriving Inhabited

def Node.tag : Node → Tag
  | .scalar tag _ | .items tag _ | .entries tag _ => tag

/-- The tag that is written in full, unless none in particular is written; nothing when its handle
is unknown. -/
def WrittenTag.resolve (handles : Handles) (tag : WrittenTag) : Option (Option Tag) := do
  let start ← match tag.handle with
    | some handle => handles.lookup handle
    | none => some ""
  let full := start ++ tag.suffix
  return if full = "!" then none else some (.ofText full)

/-- The tag of a node, which is `implied` unless the properties say another one. -/
def Properties.tagOr (handles : Handles) (implied : Tag) (properties : Properties) : Option Tag :=
  match properties.tag with
  | none => some implied
  | some tag => (tag.resolve handles).map (·.getD implied)

/-- The tag of a scalar. A tag that is none in particular makes it a plain one. -/
def Properties.scalarTag (handles : Handles) (text : String) (plain : Bool)
    (properties : Properties) : Option Tag :=
  let implied := if plain || properties.tag.isSome then .ofPlain text else .text
  properties.tagOr handles implied

abbrev Names := List (String × Node)

/-- The names with that of a further node, which has to be new. -/
def Properties.name (properties : Properties) (node : Node) (names : Names) :
    Option (Node × Names) :=
  match properties.anchor with
  | none => some (node, names)
  | some name =>
    if (names.lookup name).isSome then none else some (node, (name, node) :: names)

mutual

def Form.compose (handles : Handles) (names : Names) : Form → Option (Node × Names)
  | .alias name => (names.lookup name).map fun node => (node, names)
  | .scalar properties text plain => do
    let tag ← properties.scalarTag handles text plain
    properties.name (.scalar tag text) names
  | .items properties forms => do
    let tag ← properties.tagOr handles .list
    let (nodes, known) ← composeAll handles names forms
    properties.name (.items tag nodes) known
  | .entries properties pairs => do
    let tag ← properties.tagOr handles .mapping
    let (pairs, known) ← composePairs handles names pairs
    properties.name (.entries tag pairs) known

def composeAll (handles : Handles) (names : Names) : List Form → Option (List Node × Names)
  | [] => some ([], names)
  | form :: rest => do
    let (node, known) ← form.compose handles names
    let (nodes, last) ← composeAll handles known rest
    return (node :: nodes, last)

def composePairs (handles : Handles) (names : Names) :
    List (Form × Form) → Option (List (Node × Node) × Names)
  | [] => some ([], names)
  | (key, value) :: rest => do
    let (key, known) ← key.compose handles names
    let (value, after) ← value.compose handles known
    let (pairs, last) ← composePairs handles after rest
    return ((key, value) :: pairs, last)

end

def Node.ofText? (s : String) : Option Node := do
  let document ← Document.ofTokens? (← tokens? s)
  let (node, _) ← document.form.compose document.handles []
  return node

end AccessSync.Yaml
