import AccessSync.Connector

/-!
# Groups

Groups come from the directory with their owners and members. The grants of a group are listed in
two phases, owners first; an owner of unknown type fails its page, a member of unknown type is
dropped. Nested groups become grants that expand to their members.
-/

namespace AccessSync.Catalog.Group

def fields : List String :=
  ["id", "displayName", "description", "groupTypes", "mail", "mailEnabled", "securityEnabled",
    "securityIdentifier", "classification", "onPremisesSyncEnabled",
    "onPremisesSecurityIdentifier"]

def membershipFields : String := "id,servicePrincipalType"

/-- What a refusal says when a reference exists already. -/
def alreadyExists : String := "added object references already exist"

def holdsText (v : Value) (s : String) : Except Misuse Bool :=
  match v with
  | .list items => .ok (items.any fun
    | .text t => t == s
    | _ => false)
  | .text t => .ok (Text.contains s t)
  | .mapping entries => .ok (lookup? s entries).isSome
  | _ => .error .wrongKind

def groupTypes (group : Value) : Except Misuse Value := do
  return (← group.field "groupTypes").orElse (.list [])

/-- What kind of group it is, by its types and by what it is enabled for. -/
def kind (group : Value) : Except Misuse String := do
  if ← holdsText (← groupTypes group) "Unified" then return "microsoft_365"
  let mail := (← group.field "mailEnabled").holds
  let security := (← group.field "securityEnabled").holds
  return match mail, security with
    | true, true => "mail_enabled_security"
    | false, true => "security"
    | true, false => "distribution"
    | false, false => ""

def membershipKind (group : Value) : Except Misuse String := do
  return if ← holdsText (← groupTypes group) "DynamicMembership" then "dynamic" else "assigned"

def entryIfGiven (group : Value) (field name : String) : Except Misuse (List (String × Value)) := do
  let v ← group.field field
  return if v.isEmpty then [] else [(name, v)]

def profile (group : Value) : Except Misuse Value := do
  let own := [
    ("object_id", ← group.require "id"),
    ("group_type", .text (← kind group)),
    ("membership_type", .text (← membershipKind group)),
    ("mail_enabled", (← group.field? "mailEnabled").getD (.bool false)),
    ("security_enabled", (← group.field? "securityEnabled").getD (.bool false)),
    ("security_identifier", ← group.field "securityIdentifier")]
  let mail ← entryIfGiven group "mail" "mail"
  let classification ← entryIfGiven group "classification" "classification"
  let identifier ←
    entryIfGiven group "onPremisesSecurityIdentifier" "on_premises_security_identifier"
  let synced := if (← group.field "onPremisesSyncEnabled").holds then
      [("on_premises_sync_enabled", .bool true)]
    else []
  return .record (own ++ mail ++ classification ++ identifier ++ synced)

def resource (group : Value) (parent : Option ResourceId) : Except Misuse Resource := do
  let profile ← profile group
  let id ← (← group.require "id").asText
  return { id := ⟨.group, id⟩, displayName := ← group.textField "displayName" id, parent, profile }

def list (c : Connector) (context : Context Session) (parent : Option ResourceId)
    (cursor : String) : Act (List Resource × String) :=
  let firstUrl := Directory.url ["groups"] (c.withOnPremisesFilter
    [("$select", Connector.fieldList fields), ("$top", "999")]) false
  let translate (groups : List Value) : Act (List Resource) :=
    Run.reading (groups.mapM (resource · parent))
  c.step .group context [c.directoryPhase "groups" firstUrl translate] cursor

def entitlements (group : Resource) : List Entitlement :=
  let name := group.displayName
  [{ resource := group.id
     slug := Slug.owners
     displayName := s!"{name} Group Owner"
     description := s!"Owner of {name} group"
     purpose := .permission
     grantableTo := [.user] },
   { resource := group.id
     slug := Slug.members
     displayName := s!"{name} Group Member"
     description := s!"Member of {name} group"
     purpose := .assignment
     grantableTo := [.user, .group] }]

def translateMemberships (type : ResourceType) (resource : ResourceId) (slug : String)
    (strict acceptGroups : Bool) (records : List Value) : Act (List Grant) :=
  Run.filterMap (membershipGrant (Connector.translator type) (Session.tallyPart type) resource slug
    strict acceptGroups) records

def grants (c : Connector) (context : Context Session) (group : Resource) (cursor : String) :
    Act (List Grant × String) :=
  let id := group.id.id
  let ownersUrl := Directory.url ["groups", id, Slug.owners] [("$select", membershipFields)] true
  let membersUrl := Directory.url ["groups", id, Slug.members] (c.withOnPremisesFilter
    [("$select", membershipFields), ("$top", "999")]) true
  c.step .group context [
    c.directoryPhase Slug.owners ownersUrl
      (translateMemberships .group group.id Slug.owners true true),
    c.directoryPhase Slug.members membersUrl
      (translateMemberships .group group.id Slug.members false true)] cursor

def requireSlug (slug : String) : Act Unit :=
  if slug = Slug.owners || slug = Slug.members then pure ()
  else Run.fail (.provisioning (.unsupported "group" slug))

/-- Makes a user an owner or a member of a group; one who is already counts as made. -/
def grant (c : Connector) (principal : Resource) (entitlement : Entitlement) : Act Unit := do
  Connector.requireUser .group principal.id "group entitlements"
  requireSlug entitlement.slug
  let url := Directory.url ["groups", entitlement.resource.id, entitlement.slug, "$ref"] [] false
  let existed ← (do
      let _ ← c.query "POST" url (some (Connector.objectReference principal.id.id))
      return false).onFailure fun f =>
    -- The message holds the start of the body only.
    if f.request?.isSome && Text.contains alreadyExists f.message then return true
    else Run.raise f
  Run.log .info ResourceType.group.component <|
    if existed then "Group membership already exists, treating as successful"
    else "Granted " ++ entitlement.id ++ " to " ++ principal.id.text

/-- Ends the ownership or membership of a user; one that does not exist counts as ended. -/
def revoke (c : Connector) (grant : Grant) : Act Unit := do
  Connector.requireUser .group grant.principal "group entitlements"
  requireSlug grant.slug
  let url := Directory.url ["groups", grant.resource.id, grant.slug, grant.principal.id, "$ref"] []
    false
  let absent ← (do
      let _ ← c.query "DELETE" url none
      return false).onFailure fun f =>
    if f.isNotFound then return true else Run.raise f
  Run.log .info ResourceType.group.component <|
    if absent then "Group membership to revoke not found; the end state is already achieved"
    else "Revoked " ++ grant.entitlementId ++ " from " ++ grant.principal.text

end AccessSync.Catalog.Group
