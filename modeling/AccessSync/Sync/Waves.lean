import AccessSync.Catalog
import AccessSync.Sync.Document

/-!
# Syncing

A sync lists the kinds of resources in waves, so that every parent is listed before what belongs
to it, and then collects the entitlements and grants of every resource.
-/

namespace AccessSync.Sync

/-- The kinds that are listed together, wave by wave. -/
def waves : List (List ResourceType) := [
  [.user, .group, .enterpriseApplication, .managedIdentity, .tenant, .subscription],
  [.resourceGroup, .role, .storageAccount],
  [.container]]

def parentType? : ResourceType → Option ResourceType
  | .resourceGroup | .role | .storageAccount => some .subscription
  | .container => some .storageAccount
  | _ => none

def listed (resources : List (ResourceType × List Resource)) (type : ResourceType) :
    List Resource :=
  (resources.lookup type).getD []

/-- The parents to list a kind under; a kind without parents is listed once. -/
def parents (resources : List (ResourceType × List Resource)) (type : ResourceType) :
    List (Option ResourceId) :=
  match parentType? type with
  | none => [none]
  | some parent => (listed resources parent).map fun r => some r.id

variable (c : Connector)

def listUnder (type : ResourceType) : List (Option ResourceId) → Act (List Resource)
  | [] => pure []
  | parent :: rest => do
    let found ← c.drain (Catalog.list c type c.context parent)
    return found ++ (← listUnder type rest)

def listType (resources : List (ResourceType × List Resource)) (type : ResourceType) :
    Act (List Resource) := do
  let found ← listUnder c type (parents resources type)
  Run.log .info component ("Listed " ++ toString found.length ++ " " ++ type.name ++ " resources")
  return found

def accessTo (type : ResourceType) : List Resource → Act Access
  | [] => pure ([], [])
  | resource :: rest => do
    let entitlements ← Catalog.entitlements c type resource
    let grants ← c.drain (Catalog.grants c type c.context resource)
    let others ← accessTo type rest
    return (entitlements ++ others.1, grants ++ others.2)

def accessOfType (resources : List (ResourceType × List Resource)) (type : ResourceType) :
    Act Access := do
  let access ← accessTo c type (listed resources type)
  Run.log .info component
    ("Collected " ++ toString access.1.length ++ " entitlements and " ++
      toString access.2.length ++ " grants for " ++ type.name)
  return access

def listWaves : List (List ResourceType) → List (ResourceType × List Resource) →
    SyncRun (List (ResourceType × List Resource))
  | [], resources => pure resources
  | wave :: rest, resources => do
    let found ← parallel c.context wave (listType c resources)
    listWaves rest (resources ++ found)

def workersOf (config : Value) : Except Misuse Int :=
  (Directory.entryOr config "max_workers" (.int 4)).toInteger

def now : Act Int := Act.call c.world .clock

def report (d : SyncDocument) : Act Unit := do
  Run.log .info component
    ("Sync finished: " ++ toString d.allResources.length ++ " resources, " ++
      toString d.allEntitlements.length ++ " entitlements, " ++
      toString d.allGrants.length ++ " grants in " ++ Decimal.text d.elapsed ++ " seconds")
  if d.drops.holds then
    Run.log .warning component ("Records dropped during sync: " ++ d.drops.literal)

/-- Runs a sync with a number of workers. The workers of a wave do not depend on each other, so
they are run one after the other. -/
def run (workers : Int) : SyncRun SyncDocument := do
  let started ← lift (now c)
  -- The clock has been read by then.
  if workers < 1 then lift (Run.defect (.misuse .badContent))
  let resources ← listWaves c waves []
  let access ← parallel c.context (resources.map Prod.fst) (accessOfType c resources)
  let elapsed := Float.ofInt ((← lift (now c)) - started)
  let document : SyncDocument :=
    { metadata := c.metadata, resources, access, drops := drops (← get).tallies, elapsed }
  lift (report document)
  return document

end AccessSync.Sync
