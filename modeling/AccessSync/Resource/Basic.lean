import AccessSync.Value.Basic

/-!
# Resources, entitlements and grants

A resource is a thing that access can be given to or that can hold access. An entitlement is a
named kind of access to a resource, and a grant says that a principal holds an entitlement.
-/

namespace AccessSync

inductive ResourceType where
  | user
  | group
  | enterpriseApplication
  | managedIdentity
  | tenant
  | subscription
  | resourceGroup
  | role
  | storageAccount
  | container
  deriving Inhabited, DecidableEq, Repr

namespace ResourceType

/-- Every kind, identities first and then the management hierarchy from the top down. -/
def all : List ResourceType :=
  [user, group, enterpriseApplication, managedIdentity, tenant, subscription, resourceGroup,
    role, storageAccount, container]

def name : ResourceType → String
  | user => "user"
  | group => "group"
  | enterpriseApplication => "enterprise_application"
  | managedIdentity => "managed_identity"
  | tenant => "tenant"
  | subscription => "subscription"
  | resourceGroup => "resource_group"
  | role => "role"
  | storageAccount => "storage_account"
  | container => "container"

def ofName? (s : String) : Option ResourceType := all.find? (·.name == s)

/-- The component that enumerates the resources of a kind, as log lines and summaries call it. -/
def component : ResourceType → String
  | user => "UserBuilder"
  | group => "GroupBuilder"
  | enterpriseApplication => "EnterpriseApplicationBuilder"
  | managedIdentity => "ManagedIdentityBuilder"
  | tenant => "TenantBuilder"
  | subscription => "SubscriptionBuilder"
  | resourceGroup => "ResourceGroupBuilder"
  | role => "RoleBuilder"
  | storageAccount => "StorageAccountBuilder"
  | container => "ContainerBuilder"

end ResourceType

structure ResourceId where
  type : ResourceType
  id : String
  deriving Inhabited, DecidableEq, Repr

def ResourceId.text (r : ResourceId) : String := r.type.name ++ ":" ++ r.id

structure Resource where
  id : ResourceId
  displayName : String
  parent : Option ResourceId
  profile : Value
  deriving Inhabited

def Resource.toValue (r : Resource) : Value :=
  .record [
    ("resourceType", .text r.id.type.name),
    ("id", .text r.id.id),
    ("displayName", .text r.displayName),
    ("parent", .ofText? (r.parent.map ResourceId.text)),
    ("profile", r.profile)]

/-- What holding an entitlement means: being assigned, or being permitted. -/
inductive Purpose where
  | assignment
  | permission
  deriving Inhabited, DecidableEq, Repr

def Purpose.name : Purpose → String
  | .assignment => "assignment"
  | .permission => "permission"

def entitlementId (resource : ResourceId) (slug : String) : String :=
  resource.text ++ ":" ++ slug

structure Entitlement where
  resource : ResourceId
  slug : String
  displayName : String
  description : String
  purpose : Purpose
  grantableTo : List ResourceType
  deriving Inhabited, DecidableEq

namespace Entitlement

def id (e : Entitlement) : String := entitlementId e.resource e.slug

def toValue (e : Entitlement) : Value :=
  .record [
    ("id", .text e.id),
    ("resource", .text e.resource.text),
    ("slug", .text e.slug),
    ("displayName", .text e.displayName),
    ("description", .text e.description),
    ("purpose", .text e.purpose.name),
    ("grantableTo", .list (e.grantableTo.map fun t => .text t.name))]

end Entitlement

/-- The entitlements to expand in order to find who a grant reaches in the end. -/
structure Expansion where
  entitlementIds : List String
  resourceTypeIds : List String
  shallow : Bool
  deriving Inhabited, DecidableEq

structure Grant where
  resource : ResourceId
  slug : String
  principal : ResourceId
  grantId : String
  expansion : Option Expansion
  deriving Inhabited, DecidableEq

namespace Grant

def entitlementId (g : Grant) : String := AccessSync.entitlementId g.resource g.slug

/-- Whether the principal stands for further holders. -/
def expandable (g : Grant) : Bool := g.expansion.isSome

/-- The document entry of a grant; only an expandable one has an expansion. -/
def toValue (g : Grant) : Value :=
  .record ([
    ("id", .text g.grantId),
    ("entitlement", .text g.entitlementId),
    ("principalType", .text g.principal.type.name),
    ("principalId", .text g.principal.id),
    ("expandable", .bool g.expandable)] ++
    match g.expansion with
    | none => []
    | some hint => [("expansion", .record [
        ("entitlementIds", .list (hint.entitlementIds.map .text)),
        ("resourceTypeIds", .list (hint.resourceTypeIds.map .text)),
        ("shallow", .bool hint.shallow)])])

end Grant

end AccessSync
