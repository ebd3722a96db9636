import AccessSync.Sync.Outcome

/-!
# Documents

What a sync delivers: the resources of all kinds, their entitlements and grants, and a summary.
-/

namespace AccessSync

abbrev Access := List Entitlement × List Grant

structure SyncDocument where
  metadata : Value
  resources : List (ResourceType × List Resource)
  access : List (ResourceType × Access)
  drops : Value
  elapsed : Float

namespace SyncDocument

def allResources (d : SyncDocument) : List Resource := d.resources.flatMap Prod.snd

def allEntitlements (d : SyncDocument) : List Entitlement := d.access.flatMap (·.2.1)

def allGrants (d : SyncDocument) : List Grant := d.access.flatMap (·.2.2)

def summary (d : SyncDocument) : List (String × Value) := [
  ("resources", .record (d.resources.map fun (type, found) => (type.name, .int found.length))),
  ("entitlements", .int d.allEntitlements.length),
  ("grants", .int d.allGrants.length),
  ("soft_drops", d.drops),
  ("elapsed_seconds", .float d.elapsed)]

/-- The document as a value; `remarks` are added to its summary. -/
def toValue (d : SyncDocument) (remarks : List (String × Value)) : Value :=
  .record [
    ("metadata", d.metadata),
    ("resources", .list (d.allResources.map Resource.toValue)),
    ("entitlements", .list (d.allEntitlements.map Entitlement.toValue)),
    ("grants", .list (d.allGrants.map Grant.toValue)),
    ("summary", .record (d.summary ++ remarks))]

end SyncDocument

namespace Sync

def dropsOf (tally : DropTally) : Value :=
  .record (tally.sorted.map fun ((kind, value), n) => (kind.name ++ ":" ++ value, .int n))

/-- The drops of all components that dropped something. -/
def drops (tallies : ResourceType → DropTally) : Value :=
  .record (ResourceType.all.filterMap fun type =>
    if (tallies type).counts.isEmpty then none
    else some (type.component, dropsOf (tallies type)))

end Sync

end AccessSync
