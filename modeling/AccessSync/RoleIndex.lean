import AccessSync.Management.Client

/-!
# Role assignments by role

For each scope the role assignments are drained once and kept by role. A drain that fails keeps
nothing, so the next question about the scope drains again.
-/

namespace AccessSync

namespace AssignmentsByRole

/-- The assignments with a further one of a role, after the others of that role. -/
def add (role : String) (assignment : RoleAssignment) : AssignmentsByRole → AssignmentsByRole
  | [] => [(role, [assignment])]
  | (r, assignments) :: rest =>
    if r = role then (r, assignments ++ [assignment]) :: rest
    else (r, assignments) :: add role assignment rest

def ofRole (index : AssignmentsByRole) (role : String) : List RoleAssignment :=
  (index.lookup role).getD []

def roles (index : AssignmentsByRole) : List String :=
  ActionMap.ascending (index.map Prod.fst)

def size (index : AssignmentsByRole) : Nat :=
  (index.flatMap Prod.snd).length

end AssignmentsByRole

structure RoleIndex where
  world : World
  limit : Nat
  /-- The index keeps its entries among the shared objects. -/
  shared : Bool

namespace RoleIndex

def component : String := "ResourceCache"

/-- An index over a cache of objects: it shares a cache that holds something and otherwise keeps
its entries by itself. -/
def onCache (world : World) (limit : Nat) (cache : ObjectCache) : RoleIndex :=
  { world, limit, shared := cache.size != 0 }

def part (index : RoleIndex) : Part Session (Cache String AssignmentsByRole) :=
  if index.shared then
    { get := fun s => s.objects.roleAssignments
      set := fun c s => { s with objects := { s.objects with roleAssignments := c } } }
  else
    { get := fun s => s.assignments
      set := fun c s => { s with assignments := c } }

def cacheName (index : RoleIndex) : String := if index.shared then "sync" else "role-assignments"

def scopeOr (subscription : String) (scope : Option String) : String :=
  match scope.filter (!·.isEmpty) with
  | some s => s
  | none => subscriptionScope subscription

def file (index : AssignmentsByRole) (assignment : RoleAssignment) : Act AssignmentsByRole := do
  let role ← Run.decoding (roleOfDefinitionId assignment.roleDefinitionId)
  return index.add role assignment

/-- Drains the assignments at a scope. Unless the service wants fewer requests, a failure is one
of building the index. -/
def build (index : RoleIndex) (subscription scope : String) : Act AssignmentsByRole := do
  let entry ← (Management.foldRoleAssignments index.world subscription scope file index.limit none
      []).onFault fun
    | .failure f =>
      -- A scope that does not exist is no exception, so callers that read a missing object as an
      -- empty page do not recognise it.
      if f.isRateLimited then Run.raise f else Run.fail (.cacheBuild scope f.message)
    | .defect d => Run.fail (.cacheBuild scope d.message)
  Run.log .info component
    (s!"Indexed {entry.size} role assignments across " ++ toString entry.length ++
      s!" roles for {scope}")
  return entry

def assignmentsByRole (index : RoleIndex) (subscription : String) (scope : Option String) :
    Act AssignmentsByRole :=
  let scope := scopeOr subscription scope
  Act.cached index.cacheName "role-assignments" index.part scope (index.build subscription scope)

def assignments (index : RoleIndex) (subscription role : String) (scope : Option String) :
    Act (List RoleAssignment) := do
  return (← index.assignmentsByRole subscription scope).ofRole role

def representative? (index : RoleIndex) (subscription role : String) (scope : Option String) :
    Act (Option RoleAssignment) := do
  return (← index.assignments subscription role scope).head?

def roles (index : RoleIndex) (subscription : String) (scope : Option String) :
    Act (List String) := do
  return (← index.assignmentsByRole subscription scope).roles

/-- The assignment was made for the principal and, where `assignedAt` asks for it, exactly at that
scope. Scopes are compared without regard to case; an assignment without a scope counts as made at
`indexScope`. -/
def isFor (indexScope principal : String) (assignedAt : Option String) (a : RoleAssignment) :
    Bool :=
  a.principalId == principal &&
    match assignedAt.filter (!·.isEmpty) with
    | none => true
    | some wanted =>
      Text.lower (if a.scope.isEmpty then indexScope else a.scope) == Text.lower wanted

/-- The first assignment of a role to a principal, made exactly at `assignedAt` if that is given. -/
def find? (index : RoleIndex) (subscription role principal : String) (scope : Option String)
    (assignedAt : Option String) : Act (Option RoleAssignment) := do
  return (← index.assignments subscription role scope).find?
    (isFor (scopeOr subscription scope) principal assignedAt)

def invalidate (index : RoleIndex) (subscription : String) (scope : Option String) : Act Unit :=
  -- The entries of scopes below this one are not touched.
  Cache.forget index.part (scopeOr subscription scope)

end RoleIndex

end AccessSync
