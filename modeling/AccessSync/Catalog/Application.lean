import AccessSync.Catalog.Group

/-!
# Enterprise applications

The service principals of applications that the tenant owns. Each listed record is kept, so that
entitlements and assignments can be read from it later. Owners have to be users or service
principals. The assignments of application roles come from the kept record; a group that is
assigned a role stands for its direct user members only.
-/

namespace AccessSync.Catalog.Application

def fields : List String :=
  ["accountEnabled", "appDisplayName", "appRoles", "appId", "appOwnerOrganizationId",
    "description", "displayName", "homepage", "id", "info", "servicePrincipalType", "tags"]

def defaultRole : String := "00000000-0000-0000-0000-000000000000"

def assignmentSlug (role : String) : String := Slug.assignment ++ ":" ++ role

def roleOfSlug? (slug : String) : Option String :=
  (Text.dropStart? (Slug.assignment ++ ":") slug).filter (!·.isEmpty)

/-! ## Records -/

def recordUrl (id : String) : String :=
  Directory.url ["servicePrincipals", id]
    [("$select", Connector.fieldList fields), ("$expand", "appRoleAssignedTo")] true

/-- The record of a service principal, fetched unless it is kept. -/
def record (c : Connector) (id : String) : Act Value :=
  Act.cached "sync" "service-principal" Session.servicePrincipalPart id do
    return Directory.recordOf (← c.query "GET" (recordUrl id) none)

def forget (id : String) : Act Unit := Cache.forget Session.servicePrincipalPart id

def profile (sp : Value) : Except Misuse Value := do
  return .record [
    ("id", ← sp.require "id"),
    ("app_id", ← sp.field "appId"),
    ("display_name", ← sp.field "displayName"),
    ("app_display_name", ← sp.field "appDisplayName"),
    ("description", ← sp.field "description"),
    ("homepage", ← sp.field "homepage"),
    ("account_enabled", (← sp.field? "accountEnabled").getD (.bool false)),
    ("tags", (← sp.field "tags").orElse (.list []))]

def resource (sp : Value) (parent : Option ResourceId) : Except Misuse Resource := do
  let profile ← profile sp
  let id ← (← sp.require "id").asText
  return {
    id := ⟨.enterpriseApplication, id⟩
    displayName := ← sp.textField "displayName" id
    parent
    profile }

/-- The application belongs to one of the organizations. A compound value cannot name an owner. -/
def isOwnedBy (organizations : List String) (sp : Value) : Except Misuse Bool := do
  match ← sp.field "appOwnerOrganizationId" with
  | .text owner => return organizations.contains owner
  | .list _ | .mapping _ => throw .wrongKind
  | _ => return false

/-- Keeps the record of an owned application; others are left out. -/
def takeUp (organizations : List String) (parent : Option ResourceId) (sp : Value) :
    Act (Option Resource) := do
  if ← Run.reading (isOwnedBy organizations sp) then
    let id ← Run.reading (do (← sp.require "id").asText)
    -- The record is kept even if it makes no resource.
    Cache.store Session.servicePrincipalPart id sp
    return some (← Run.reading (resource sp parent))
  else return none

def list (c : Connector) (context : Context Session) (parent : Option ResourceId)
    (cursor : String) : Act (List Resource × String) := do
  let firstUrl := Directory.url ["servicePrincipals"] [
    ("$select", Connector.fieldList fields),
    ("$expand", "appRoleAssignedTo"),
    ("$filter", "servicePrincipalType eq 'Application'"),
    ("$top", "999")] true
  -- This is asked before the first look at the cancellation signal.
  let organizations ← c.organizationIds
  c.step .enterpriseApplication context
    [c.directoryPhase "servicePrincipals" firstUrl (Run.filterMap (takeUp organizations parent))]
    cursor

/-! ## Entitlements -/

/-- The entitlement of an application role, if users can be assigned it. -/
def roleEntitlement (app : Resource) (role : Value) : Except Misuse (Option Entitlement) := do
  let allowed := (← role.field "allowedMemberTypes").orElse (.list [])
  if ← Group.holdsText allowed "User" then
    let id := (← role.require "id").display
    let roleName := (← role.field "displayName").display
    let roleText := (← role.field "description").display
    return some {
      resource := app.id
      slug := assignmentSlug id
      displayName := s!"{roleName} Role Assignment"
      description := s!"Assigned to {app.displayName} Application with {roleText} Role"
      purpose := .assignment
      grantableTo := [.user, .group] }
  else return none

/-- The entitlements that every application has: being its owner, and being assigned to it
without a particular role. -/
def generalEntitlements (app : Resource) : List Entitlement :=
  let name := app.displayName
  [{ resource := app.id
     slug := Slug.owners
     displayName := s!"{name} Application Owner"
     description := s!"Owner of {name} Application"
     purpose := .permission
     grantableTo := [.user] },
   { resource := app.id
     slug := assignmentSlug defaultRole
     displayName := s!"{name} Application Assignment"
     description := s!"Assigned to {name} Application"
     purpose := .assignment
     grantableTo := [.user, .group] }]

def entitlements (c : Connector) (app : Resource) : Act (List Entitlement) := do
  let sp ← record c app.id.id
  let roles ← Run.reading (sp.listField "appRoles")
  return generalEntitlements app ++
    (← Run.filterMap (fun role => Run.reading (roleEntitlement app role)) roles)

/-! ## Grants -/

def assignmentTo (app : Resource) (assignment : Value) (principal : ResourceId)
    (expansion : Option Expansion) : Except Misuse Grant := do
  return {
    resource := app.id
    slug := assignmentSlug ((← assignment.field "appRoleId").orElse (.text defaultRole)).display
    principal
    grantId := ← assignment.textField "id" ""
    expansion }

def assignmentGrant (c : Connector) (app : Resource) (assignment : Value) :
    Act (Option Grant) := do
  let id ← Run.reading (assignment.textField "principalId" "")
  let type ← Run.reading (assignment.textField "principalType" "")
  let recordId ← Run.reading (assignment.field "id")
  let granted (principal : ResourceId) (expansion : Option Expansion) : Act (Option Grant) := do
    return some (← Run.reading (assignmentTo app assignment principal expansion))
  if type = "User" then granted ⟨.user, id⟩ none
  else if type = "Group" then granted ⟨.group, id⟩ (some (groupMembers id true true))
  else if type = "ServicePrincipal" then
    let subtype := (← c.principal id).subtype?
    match ← Connector.classify .enterpriseApplication subtype app.id.id recordId with
    | some kind => granted ⟨kind, id⟩ none
    | none => return none
  else
    let drop : Drop := ⟨.membershipType, type, app.id.id, recordId⟩
    Connector.settle .enterpriseApplication (.dropped drop)

def ownerParameters (c : Connector) : List (String × String) :=
  c.withOnPremisesFilter [("$select", "id,servicePrincipalType")]

def grants (c : Connector) (context : Context Session) (app : Resource) (cursor : String) :
    Act (List Grant × String) := do
  let id := app.id.id
  let ownersUrl := Directory.url ["servicePrincipals", id, Slug.owners] (ownerParameters c) true
  let size ← Run.reading c.pageSize
  -- All pages count in the one record that is kept.
  let loadAssignments : Act (List Value) := do
    Run.reading ((← record c id).listField "appRoleAssignedTo")
  c.step .enterpriseApplication context [
    c.directoryPhase Slug.owners ownersUrl
      (Group.translateMemberships .enterpriseApplication app.id Slug.owners true false),
    Connector.markerPhase Slug.assignment size loadAssignments
      (Run.filterMap (assignmentGrant c app))] cursor

/-! ## Provisioning -/

def grant (c : Connector) (principal : Resource) (entitlement : Entitlement) : Act Unit := do
  Connector.requireUser .enterpriseApplication principal.id "enterprise app entitlements"
  let id := entitlement.resource.id
  if entitlement.slug = Slug.owners then
    let url := Directory.url ["servicePrincipals", id, Slug.owners, "$ref"] [] false
    let _ ← c.query "POST" url (some (Connector.objectReference principal.id.id))
  else match roleOfSlug? entitlement.slug with
    | none =>
      Run.fail (.provisioning (.unsupported "enterprise application" entitlement.id))
    -- The slug need not be one of the entitlements that are listed.
    | some role =>
      let url := Directory.url ["servicePrincipals", id, "appRoleAssignedTo"] [] true
      let _ ← c.query "POST" url (some (.record [("appRoleId", .text role),
        ("principalId", .text principal.id.id), ("resourceId", .text id)]))
  forget id
  Run.log .info ResourceType.enterpriseApplication.component
    ("Granted " ++ entitlement.id ++ " to " ++ principal.id.text)

def revoke (c : Connector) (grant : Grant) : Act Unit := do
  let id := grant.resource.id
  if grant.slug = Slug.owners then
    let url := Directory.url ["servicePrincipals", id, Slug.owners, grant.principal.id, "$ref"] []
      false
    let _ ← c.query "DELETE" url none
  else if (roleOfSlug? grant.slug).isSome then
    let url := Directory.url ["servicePrincipals", id, "appRoleAssignedTo", grant.grantId] [] false
    let _ ← c.query "DELETE" url none
  else
    Run.log .warning ResourceType.enterpriseApplication.component
      ("Cannot revoke unsupported entitlement " ++ grant.entitlementId)
    Run.fail (.provisioning (.unsupported "enterprise application" grant.entitlementId))
  forget id
  Run.log .info ResourceType.enterpriseApplication.component
    ("Revoked " ++ grant.entitlementId ++ " from " ++ grant.principal.text)

end AccessSync.Catalog.Application
