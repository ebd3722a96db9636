import AccessSync.Fault
import AccessSync.Text.Case
import AccessSync.Text.Split

/-!
# Compound identifiers

The management service names things by paths, and this library by several parts with colons
between them. Each composer has a decoder beside it that refuses everything else.
-/

namespace AccessSync

def subscriptionScope (subscription : String) : String := "/subscriptions/" ++ subscription

/-! ## Role definitions and roles -/

def roleDefinitionId (subscription role : String) : String :=
  "/subscriptions/" ++ subscription ++ "/providers/Microsoft.Authorization/roleDefinitions/" ++ role

/-- The role that a role definition path names: the last of its seven pieces. -/
def roleOfDefinitionId (path : String) : Except RecordFault String :=
  if path.isEmpty then .error .noRoleDefinition
  else match Text.splitOn '/' path with
    | [_, _, _, _, _, _, role] =>
      if role.isEmpty then .error (.badIdentifier .roleDefinition path) else .ok role
    | _ => .error (.badIdentifier .roleDefinition path)

def roleResourceId (role subscription : String) : String := role ++ ":" ++ subscription

def splitRoleResourceId (id : String) : Except RecordFault (String × String) :=
  match Text.splitOn ':' id with
  | [role, subscription] =>
    if role.isEmpty || subscription.isEmpty then .error (.badIdentifier .roleResource id)
    else .ok (role, subscription)
  | _ => .error (.badIdentifier .roleResource id)

/-! ## Resource groups -/

def resourceGroupId (name subscription : String) : String := name ++ ":" ++ subscription

def splitResourceGroupId (id : String) : Except RecordFault (String × String) :=
  match Text.splitLast? ':' id with
  | some (name, subscription) =>
    if name.isEmpty || subscription.isEmpty then .error (.badIdentifier .resourceGroup id)
    else .ok (name, subscription)
  | none => .error (.badIdentifier .resourceGroup id)

def resourceGroupScope (name subscription : String) : String :=
  "/subscriptions/" ++ subscription ++ "/resourceGroups/" ++ name

/-! ## Resources of a provider -/

/-- A resource that a provider manages in a resource group of a subscription. -/
structure ResourcePath where
  subscription : String
  resourceGroup : String
  provider : String
  type : String
  name : String
  deriving Inhabited, DecidableEq

namespace ResourcePath

def azureId (p : ResourcePath) : String :=
  "/subscriptions/" ++ p.subscription ++ "/resourceGroups/" ++ p.resourceGroup ++
    "/providers/" ++ p.provider ++ "/" ++ p.type ++ "/" ++ p.name

/-- The resource of a path. The three fixed pieces may be written in any letter case. -/
def ofAzureId (path : String) : Except RecordFault ResourcePath :=
  match Text.splitOn '/' path with
  | [root, subscriptions, subscription, groups, group, providers, provider, type, name] =>
    if root = "" && Text.lower subscriptions = "subscriptions"
        && Text.lower groups = "resourcegroups" && Text.lower providers = "providers" then
      .ok ⟨subscription, group, provider, type, name⟩
    else .error (.badIdentifier .azureResource path)
  | _ => .error (.badIdentifier .azureResource path)

/-- The five parts with colons between them. -/
def connectorId (p : ResourcePath) : String :=
  Text.joinWith ':' [p.subscription, p.resourceGroup, p.provider, p.type, p.name]

def ofConnectorId (id : String) : Except RecordFault ResourcePath :=
  match Text.splitOn ':' id with
  | [subscription, group, provider, type, name] => .ok ⟨subscription, group, provider, type, name⟩
  | _ => .error (.badIdentifier .connectorResource id)

end ResourcePath

/-! ## Containers -/

def containerId (account : ResourcePath) (container : String) : String :=
  account.connectorId ++ ":" ++ container

def splitContainerId (id : String) : Except RecordFault (ResourcePath × String) :=
  match Text.splitLast? ':' id with
  | some (account, container) =>
    if container.isEmpty then .error (.badIdentifier .container id)
    else (ResourcePath.ofConnectorId account).map fun path => (path, container)
  | none => .error (.badIdentifier .container id)

def containerScope (account : ResourcePath) (container : String) : String :=
  account.azureId ++ "/blobServices/default/containers/" ++ container

end AccessSync
