import AccessSync.Value.Basic

/-!
# Role permissions as exposed actions

A role definition permits operations by name and by pattern, in blocks of permitted and excluded
operations. A storage resource exposes only a few actions; `ActionMap.ofPermissions` says which of
them a role gives.
-/

namespace AccessSync

/-- One block of a role definition: operations that are permitted and operations excluded. -/
structure Permission where
  actions : List String
  notActions : List String
  deriving Inhabited, DecidableEq

/-- The actions that a kind of resource exposes: an operation is `scope` followed by an action. -/
structure ActionMap where
  scope : String
  exposed : List String
  deriving Inhabited

namespace ActionMap

def ofActions (scope : String) (actions : List String) : ActionMap :=
  ⟨scope, actions.eraseDups⟩

def storageAccount : ActionMap :=
  ofActions "Microsoft.Storage/storageAccounts/" ["read", "write", "delete"]

def container : ActionMap :=
  ofActions "Microsoft.Storage/storageAccounts/blobServices/containers/"
    ["read", "write", "delete"]

/-- The exposed actions that an operation name or pattern covers: every one for the general
pattern and for the pattern of the whole scope, the named one for a pattern that leaves the scope
open, none for an operation outside the scope. An operation within the scope that is not exposed
has no answer. -/
def covered? (m : ActionMap) (operation : String) : Option (List String) :=
  let cs := operation.toList
  if operation = "*" then some m.exposed
  else if ['*', '/'].isPrefixOf cs then
    let action := String.ofList (cs.drop 2)
    some (if m.exposed.contains action then [action] else [])
  else if !m.scope.toList.isPrefixOf cs then some []
  else
    let action := String.ofList (cs.drop m.scope.toList.length)
    if action = "*" then some m.exposed
    else if m.exposed.contains action then some [action]
    else none

def coveredBy (m : ActionMap) (operations : List String) : List String :=
  operations.flatMap fun operation => (m.covered? operation).getD []

def ascending (texts : List String) : List String :=
  texts.mergeSort fun a b => decide (a ≤ b)

/-- The exposed actions that the blocks give, in ascending order: an exclusion in any block takes
back what any block permits. -/
def ofPermissions (m : ActionMap) (blocks : List Permission) : List String :=
  let permitted := m.coveredBy (blocks.flatMap Permission.actions)
  let excluded := m.coveredBy (blocks.flatMap Permission.notActions)
  ascending ((permitted.filter fun a => !excluded.contains a).eraseDups)

def operations (m : ActionMap) : List (String × String) :=
  m.exposed.map fun action => (m.scope ++ action, action)

end ActionMap

end AccessSync
