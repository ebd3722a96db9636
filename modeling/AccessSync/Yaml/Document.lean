import AccessSync.Yaml.Node

/-!
# Typed values of configuration files

A mapping may take over the entries of others. What it takes over counts like entries that stand
before its own, so that its own ones win, and of several mappings the one that is named first.

Collections are filled level by level: the values of a collection are worked out when all nodes
around it are. Therefore of several nodes without a value the outermost one is reported.
-/

namespace AccessSync.Yaml

/-! ## Entries that are taken over -/

/-- A reserved key counts as a text in a mapping that stands for itself. -/
def Node.asKey : Node → Node
  | .scalar .reserved text => .scalar .text text
  | node => node

def ownEntries (pairs : List (Node × Node)) : List (Node × Node) :=
  (pairs.filter fun (key, _) => key.tag ≠ .merge).map fun (key, value) => (key.asKey, value)

mutual

/-- The entries of a mapping, after those that it takes over. -/
def Node.flatEntries : Node → Option (List (Node × Node))
  | .entries _ pairs => (takenOver pairs).map (· ++ ownEntries pairs)
  | .scalar .. | .items .. => none

/-- The entries of several mappings, those of the first one last. -/
def flatAll : List Node → Option (List (Node × Node))
  | [] => some []
  | node :: rest => node.flatEntries.bind fun first => (flatAll rest).map (· ++ first)

def takenOver : List (Node × Node) → Option (List (Node × Node))
  | [] => some []
  | (key, value) :: rest =>
    if key.tag = .merge then
      let offered := match value with
        | .scalar .. => none
        | .items _ nodes => flatAll nodes
        | .entries tag pairs => Node.flatEntries (.entries tag pairs)
      offered.bind fun first => (takenOver rest).map (first ++ ·)
    else takenOver rest

end

/-! ## Trees -/

mutual

/-- The text of a scalar, or of the value that stands for a mapping under the reserved key. -/
def Node.scalarText? : Node → Option String
  | .scalar _ text => some text
  | .items .. => none
  | .entries _ pairs => textUnderReserved? pairs

def textUnderReserved? : List (Node × Node) → Option String
  | [] => none
  | (key, value) :: rest =>
    if key.tag = .reserved then value.scalarText? else textUnderReserved? rest

end

def keyOf (v : Value) : Except Unreadable Key := v.toKey.mapError fun _ => .malformed

def orMalformed {α : Type} (found : Option α) : Except Unreadable α :=
  match found with
  | some a => .ok a
  | none => .error .malformed

def Node.readScalar (node : Node) : Except Unreadable Value := do
  let text ← orMalformed node.scalarText?
  match node, node.tag with
  -- A stamp is looked for in the node itself, which is no text here.
  | .entries .., .stamp => .error (.misuse .wrongKind)
  | _, tag => tag.read text

def entryOf (read : Node → Except Unreadable Value) (pair : Node × Node) :
    Except Unreadable (Key × Value) := do
  let key ← keyOf (← read pair.1)
  return (key, ← read pair.2)

/-- The value of a node, in which the collections below level `depth` are left empty. -/
def Node.valueTo (depth : Nat) (node : Node) : Except Unreadable Value :=
  match node.tag, depth with
  | .list, 0 => .ok (.list [])
  | .mapping, 0 => .ok (.mapping [])
  | .list, depth + 1 =>
    match node with
    | .items _ nodes => do return .list (← nodes.mapM (valueTo depth))
    | .scalar .. | .entries .. => .error .malformed
  | .mapping, depth + 1 => do
    let pairs ← orMalformed node.flatEntries
    return .mapping (overlay [] (← pairs.mapM (entryOf (valueTo depth))))
  | _, _ => node.readScalar

mutual

def Node.levels : Node → Nat
  | .scalar .. => 1
  | .items _ nodes => levelsOfAll nodes + 1
  | .entries _ pairs => levelsOfPairs pairs + 1

def levelsOfAll : List Node → Nat
  | [] => 0
  | node :: rest => max node.levels (levelsOfAll rest)

def levelsOfPairs : List (Node × Node) → Nat
  | [] => 0
  | (key, value) :: rest => max (max key.levels value.levels) (levelsOfPairs rest)

end

def Node.value (node : Node) : Except Unreadable Value := do
  -- What has no value is found on the level where it is.
  (List.range node.levels).forM fun depth => do let _ ← node.valueTo depth
  node.valueTo node.levels

def parse (s : String) : Except Unreadable Value := do
  (← orMalformed (Node.ofText? s)).value

end AccessSync.Yaml
