import AccessSync.Catalog.Subscription

/-!
# Roles

A role definition within a subscription is a resource. Who holds a role is read from the index of
role assignments; principals of unknown kind are left out. Giving and taking a role changes the
assignments made exactly at the subscription, and only those of users.
-/

namespace AccessSync.Catalog.Role

def resource (subscription : ResourceId) (definition : RoleDefinition) : Resource where
  id := ⟨.role, roleResourceId definition.name subscription.id⟩
  displayName := if definition.roleName.isEmpty then definition.name else definition.roleName
  parent := some subscription
  profile := .record [
    ("role_definition_id", .text definition.id),
    ("role_name", .text definition.roleName),
    ("description", .text definition.description),
    ("role_type", .text definition.roleType),
    ("subscription_id", .text subscription.id)]

def list (c : Connector) (context : Context Session) (parent : Option ResourceId)
    (cursor : String) : Act (List Resource × String) :=
  match parentSubscription? parent with
  | none => return ([], "")
  | some subscription =>
    c.step .role context
      [Connector.managementPhase "roleDefinitions"
        (Management.roleDefinitions c.world subscription.id)
        (fun definitions => return definitions.map (resource subscription))] cursor

def entitlements (role : Resource) : List Entitlement :=
  let name := role.displayName
  [{ resource := role.id
     slug := Slug.owners
     displayName := s!"{name} Role Owner"
     description := s!"Owner of {name} role"
     purpose := .permission
     grantableTo := [.user] },
   { resource := role.id
     slug := Slug.assigned
     displayName := s!"{name} Role Member"
     description := s!"Member of {name} role"
     purpose := .assignment
     grantableTo := [.user, .group] }]

/-- The grant of an assignment, if its principal can be told. -/
def holderGrant (c : Connector) (role : ResourceId) (assignment : RoleAssignment) :
    Act (Option Grant) := do
  let principal ← c.principal assignment.principalId
  resolvedGrant (Connector.translator .role) (Session.tallyPart .role) role Slug.assigned
    assignment.principalId assignment.id principal

def grants (c : Connector) (context : Context Session) (role : Resource) (cursor : String) :
    Act (List Grant × String) := do
  let (name, subscription) ← Run.decoding (splitRoleResourceId role.id.id)
  let size ← Run.reading c.pageSize
  c.step .role context
    [Connector.markerPhase Slug.assigned size (c.index.assignments subscription name none)
      (Run.filterMap (holderGrant c role.id))] cursor

def grant (c : Connector) (principal : Resource) (entitlement : Entitlement) : Act Unit := do
  Connector.requireUser .role principal.id "role membership"
  let (role, subscription) ← Run.decoding (splitRoleResourceId entitlement.resource.id)
  let scope := subscriptionScope subscription
  -- The slug is not looked at: whatever the entitlement, the role itself is assigned.
  let created ← Management.createAssignment c.world subscription scope
    (roleDefinitionId subscription role) principal.id.id
  -- An assignment that existed before may be missing in the entry, which is dropped in any case.
  c.index.invalidate subscription none
  match created with
  | some assignment =>
    Run.log .info ResourceType.role.component
      ("Role assignment " ++ assignment.name ++ " created for " ++ principal.id.text ++
        s!" at {scope}")
  | none => pure ()

/-- Takes a role from a user who was assigned it at the subscription. -/
def revoke (c : Connector) (grant : Grant) : Act Unit := do
  Connector.requireUser .role grant.principal "role membership"
  let (role, subscription) ← Run.decoding (splitRoleResourceId grant.resource.id)
  let scope := subscriptionScope subscription
  -- Assignments that are inherited from above or made below are not candidates.
  match ← c.index.find? subscription role grant.principal.id none (some scope) with
  | none => Run.fail (.provisioning (.noAssignment role grant.principal.id scope))
  | some assignment =>
    Management.deleteAssignment c.world subscription scope assignment.name
    c.index.invalidate subscription none
    Run.log .info ResourceType.role.component
      ("Role assignment " ++ assignment.name ++ " revoked from " ++ grant.principal.text)

end AccessSync.Catalog.Role
