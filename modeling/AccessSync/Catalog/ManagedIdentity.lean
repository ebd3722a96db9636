import AccessSync.Connector
import AccessSync.Text.Case

/-!
# Managed identities

The service principals that stand for resources of the management service. They hold access and
carry no entitlements.
-/

namespace AccessSync.Catalog.ManagedIdentity

def fields : List String :=
  ["id", "appId", "displayName", "accountEnabled", "alternativeNames", "servicePrincipalType"]

/-- The path of the resource that an identity stands for, or of the identity itself where it is a
resource: the first alternative name that is a path within a subscription. -/
def azureId? (sp : Value) : Except Misuse (Option String) := do
  go (← sp.listField "alternativeNames")
where
  go : List Value → Except Misuse (Option String)
    | [] => .ok none
    | .text name :: rest =>
      if Text.startsWith "/subscriptions/" (Text.lower name) then .ok (some name) else go rest
    | _ :: _ => .error .notRecord

def profile (sp : Value) : Except Misuse Value := do
  let own := [
    ("id", ← sp.require "id"),
    ("app_id", ← sp.field "appId"),
    ("display_name", ← sp.field "displayName"),
    ("account_enabled", (← sp.field? "accountEnabled").getD (.bool false))]
  return .record (own ++ match ← azureId? sp with
    | some path => [("azure_resource_id", .text path)]
    | none => [])

def resource (sp : Value) (parent : Option ResourceId) : Except Misuse Resource := do
  let profile ← profile sp
  let id ← (← sp.require "id").asText
  return {
    id := ⟨.managedIdentity, id⟩
    displayName := ← sp.textField "displayName" id
    parent
    profile }

def list (c : Connector) (context : Context Session) (parent : Option ResourceId)
    (cursor : String) : Act (List Resource × String) :=
  let firstUrl := Directory.url ["servicePrincipals"] [
    ("$select", Connector.fieldList fields),
    ("$filter", "servicePrincipalType eq 'ManagedIdentity'"),
    ("$top", "999")] false
  let translate (records : List Value) : Act (List Resource) :=
    Run.reading (records.mapM (resource · parent))
  c.step .managedIdentity context [c.directoryPhase "servicePrincipals" firstUrl translate] cursor

end AccessSync.Catalog.ManagedIdentity
