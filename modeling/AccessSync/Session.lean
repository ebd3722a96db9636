import AccessSync.Cache
import AccessSync.GrantPolicy
import AccessSync.Management.Record
import AccessSync.World

/-!
# Sessions

A session is what the components of one connector share: the calls made so far, the log, the
cancellation signal, the caches and the drop tallies. Actions on sessions are `Act`s.
-/

namespace AccessSync

/-- The assignments of each role at one scope, roles in order of their first assignment. -/
abbrev AssignmentsByRole := List (String × List RoleAssignment)

structure ObjectCache where
  servicePrincipals : Cache String Value
  roleDefinitions : Cache String RoleDefinition
  roleAssignments : Cache String AssignmentsByRole
  principals : Cache String Principal
  deriving Inhabited

namespace ObjectCache

def empty : ObjectCache := ⟨.empty, .empty, .empty, .empty⟩

def size (c : ObjectCache) : Nat :=
  c.servicePrincipals.size + c.roleDefinitions.size + c.roleAssignments.size + c.principals.size

end ObjectCache

structure Account where
  tenant : KeyName
  client : KeyName
  deriving DecidableEq

structure HeldToken where
  token : Value
  expires : Int
  deriving Inhabited

/-- What the components of a connector share. -/
structure Session where
  history : List Call
  journal : List LogRecord
  cancelled : Bool
  /-- How often the cancellation signal was looked at. -/
  looks : Nat
  tokens : Cache Account HeldToken
  clients : List ManagementClient
  objects : ObjectCache
  /-- Role assignments of an index that does not keep them in `objects`. -/
  assignments : Cache String AssignmentsByRole
  organizations : Option (List String)
  /-- The drops of each enumerating component. -/
  tallies : ResourceType → DropTally

namespace Session

def new : Session where
  history := []
  journal := []
  cancelled := false
  looks := 0
  tokens := .empty
  clients := []
  objects := .empty
  assignments := .empty
  organizations := none
  tallies := fun _ => .empty

instance : Journaled Session := ⟨fun r s => { s with journal := r :: s.journal }⟩

def tokenPart : Part Session (Cache Account HeldToken) where
  get s := s.tokens
  set c s := { s with tokens := c }

def servicePrincipalPart : Part Session (Cache String Value) where
  get s := s.objects.servicePrincipals
  set c s := { s with objects := { s.objects with servicePrincipals := c } }

def roleDefinitionPart : Part Session (Cache String RoleDefinition) where
  get s := s.objects.roleDefinitions
  set c s := { s with objects := { s.objects with roleDefinitions := c } }

def principalPart : Part Session (Cache String Principal) where
  get s := s.objects.principals
  set c s := { s with objects := { s.objects with principals := c } }

def tallyPart (type : ResourceType) : Part Session DropTally where
  get s := s.tallies type
  set t s := { s with tallies := fun u => if u = type then t else s.tallies u }

end Session

abbrev Act := Run Session

namespace Act

def call (world : World) (c : Call) : Act c.Answer := do
  let s ← get
  set { s with history := c :: s.history }
  -- The answer depends on the calls before this one only, and a call that fails has been made too.
  return world.answer s.history c

/-- Looks at the cancellation signal; once given it stays. -/
def look (world : World) : StateM Session Bool := fun s =>
  let cancelled := s.cancelled || world.cancels s.looks s.history
  (cancelled, { s with cancelled, looks := s.looks + 1 })

def context (world : World) : Context Session := ⟨look world⟩

def cancel : Act Unit := modify fun s => { s with cancelled := true }

def logStored (cache family key : String) : Act Unit :=
  Run.log .debug "ResourceCache"
    (s!"Cache {cache}: stored (" ++ Text.quoted family ++ ", " ++ Text.quoted key ++ ")")

def cached {ν : Type} (cache family : String) (part : Part Session (Cache String ν))
    (key : String) (producer : Act ν) : Act ν := do
  let known := ((part.get (← get)).get? key).isSome
  let value ← Cache.getOrSet part key producer
  -- A producer that stops early does not come here.
  if !known then logStored cache family key
  return value

end Act

end AccessSync
