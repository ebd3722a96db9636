import AccessSync.Catalog.Subscription

/-!
# Resource groups

The resource groups of a subscription. Their grants are the role assignments that apply to them,
each a grant of access to the role.
-/

namespace AccessSync.Catalog.ResourceGroup

def assignmentPhase : String := "role-assignment"

def resource (subscription : ResourceId) (group : Value) : Except Misuse Resource := do
  let name ← group.textField "name" ""
  let properties := (← group.field "properties").orElse (.mapping [])
  return {
    id := ⟨.resourceGroup, resourceGroupId name subscription.id⟩
    displayName := name
    parent := some subscription
    profile := .record [
      ("id", ← group.field "id"),
      ("name", .text name),
      ("location", ← group.field "location"),
      ("managed_by", ← group.field "managed_by"),
      ("provisioning_state", ← properties.field "provisioning_state"),
      ("tags", (← group.field "tags").orElse (.mapping []))] }

def list (c : Connector) (context : Context Session) (parent : Option ResourceId)
    (cursor : String) : Act (List Resource × String) :=
  match parentSubscription? parent with
  | none => return ([], "")
  | some subscription =>
    let translate (groups : List Value) : Act (List Resource) :=
      Run.reading (groups.mapM (resource subscription))
    c.step .resourceGroup context
      [Connector.managementPhase "resourceGroups"
        (Management.resourceGroups c.world subscription.id) translate] cursor

def entitlements (group : Resource) : List Entitlement :=
  let name := group.displayName
  [{ resource := group.id
     slug := Slug.assignment
     displayName := s!"Access to {name}"
     description := s!"Role assignments on resource group {name}"
     purpose := .permission
     grantableTo := [.role] }]

/-- The phase over the role assignments at a scope; an assignment without a usable role
definition fails its page. -/
def assignments (c : Connector) (resource : ResourceId) (subscription scope : String) :
    Phase Session Grant :=
  Connector.managementPhase assignmentPhase
    (Management.roleAssignments c.world subscription scope)
    (fun found => found.mapM fun a => Run.decoding (a.grant resource subscription))

def grants (c : Connector) (context : Context Session) (group : Resource) (cursor : String) :
    Act (List Grant × String) := do
  let (name, subscription) ← Run.decoding (splitResourceGroupId group.id.id)
  c.step .resourceGroup context
    [assignments c group.id subscription (resourceGroupScope name subscription)] cursor

end AccessSync.Catalog.ResourceGroup
