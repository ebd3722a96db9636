import AccessSync.Catalog.ResourceGroup

/-!
# Storage accounts and blob containers

Access to storage goes through roles. The grants of a storage resource are listed in two phases:
every role assignment that applies to it, and then, for each role assigned, the storage actions
that the role permits. Both kinds of storage resource follow the same rules with their own scope
and their own operations.
-/

namespace AccessSync.Catalog

/-- What tells the kinds of storage resources apart. -/
structure StorageKind where
  type : ResourceType
  noun : String
  actions : ActionMap
  /-- The subscription and the scope of a resource of the kind. -/
  scope : String → Except RecordFault (String × String)

namespace StorageKind

def account : StorageKind where
  type := .storageAccount
  noun := "storage account"
  actions := ActionMap.storageAccount
  scope id := (ResourcePath.ofConnectorId id).map fun path => (path.subscription, path.azureId)

def container : StorageKind where
  type := .container
  noun := "container"
  actions := ActionMap.container
  scope id := (splitContainerId id).map fun (path, name) =>
    (path.subscription, containerScope path name)

end StorageKind

namespace Storage

def actionPhase : String := "per-role-action"

def entitlements (kind : StorageKind) (resource : Resource) : List Entitlement :=
  let name := resource.displayName
  let noun := kind.noun
  { resource := resource.id
    slug := Slug.assignment
    displayName := s!"Access to {name}"
    description := s!"Access to {name}"
    purpose := .permission
    grantableTo := [.role] } ::
  kind.actions.exposed.map fun action =>
    { resource := resource.id
      slug := action
      displayName := s!"{name} {noun} {action}"
      description := s!"Can {action} {noun} {name}"
      purpose := .permission
      grantableTo := [.role] }

/-- A role definition, fetched unless it is kept under its path in lower case. -/
def roleDefinition (c : Connector) (path : String) : Act RoleDefinition :=
  Act.cached "sync" "role-definition" Session.roleDefinitionPart (Text.lower path)
    (Management.roleDefinition c.world path)

/-- The grants of the actions that one role permits, by the definition that its first assignment
names. -/
def actionGrants (c : Connector) (kind : StorageKind) (resource : ResourceId)
    (subscription scope role : String) : Act (List Grant) := do
  match ← c.index.representative? subscription role (some scope) with
  | none => return []
  -- One assignment stands for all of the role, since they name the same definition.
  | some assignment =>
    let definition ← roleDefinition c assignment.roleDefinitionId
    return (kind.actions.ofPermissions definition.permissions).map fun action =>
      roleActionGrant resource action (roleResourceId role subscription)

def translateRoles (c : Connector) (kind : StorageKind) (resource : ResourceId)
    (subscription scope : String) (roles : List String) : Act (List Grant) := do
  return (← roles.mapM (actionGrants c kind resource subscription scope)).flatten

def grants (c : Connector) (kind : StorageKind) (context : Context Session) (resource : Resource)
    (cursor : String) : Act (List Grant × String) := do
  let (subscription, scope) ← Run.decoding (kind.scope resource.id.id)
  let size ← Run.reading c.pageSize
  c.step kind.type context [
    ResourceGroup.assignments c resource.id subscription scope,
    Connector.markerPhase actionPhase size (c.index.roles subscription (some scope))
      (translateRoles c kind resource.id subscription scope)] cursor

end Storage

namespace StorageAccount

def resource (subscription : ResourceId) (account : Value) : Act Resource := do
  let path ← Run.decoding
    (ResourcePath.ofAzureId (← Run.reading (account.textField "id" "")))
  Run.reading do
    let sku := (← account.field "sku").orElse (.mapping [])
    return {
      id := ⟨.storageAccount, path.connectorId⟩
      displayName := ← account.textField "name" path.name
      parent := some subscription
      profile := .record [
        ("id", ← account.field "id"),
        ("name", ← account.field "name"),
        ("resource_group", .text path.resourceGroup),
        ("location", ← account.field "location"),
        ("kind", ← account.field "kind"),
        ("sku", ← sku.field "name")] }

def list (c : Connector) (context : Context Session) (parent : Option ResourceId)
    (cursor : String) : Act (List Resource × String) :=
  match parentSubscription? parent with
  | none => return ([], "")
  | some subscription =>
    c.step .storageAccount context
      [Connector.managementPhase "storageAccounts"
        (Management.storageAccounts c.world subscription.id)
        (fun accounts => accounts.mapM (resource subscription))] cursor

end StorageAccount

namespace Container

def resource (parent : ResourceId) (account : ResourcePath) (container : Value) :
    Except Misuse Resource := do
  let name ← container.textField "name" ""
  return {
    id := ⟨.container, containerId account name⟩
    displayName := name
    parent := some parent
    profile := .record [
      ("name", .text name),
      ("storage_account", .text account.name),
      ("last_modified", ← container.field "last_modified"),
      ("public_access", ← container.field "public_access"),
      ("has_immutability_policy", ← container.field "has_immutability_policy"),
      ("has_legal_hold", ← container.field "has_legal_hold")] }

/-- One page of the containers of a storage account; there are none under any other parent. -/
def list (c : Connector) (context : Context Session) (parent : Option ResourceId)
    (cursor : String) : Act (List Resource × String) :=
  match parent.filter fun p => p.type == .storageAccount with
  | none => return ([], "")
  | some parent => do
    let account ← Run.decoding (ResourcePath.ofConnectorId parent.id)
    let translate (containers : List Value) : Act (List Resource) :=
      Run.reading (containers.mapM (resource parent account))
    c.step .container context
      [Connector.managementPhase "containers" (Management.containers c.world account.name)
        translate] cursor

end Container

end AccessSync.Catalog
