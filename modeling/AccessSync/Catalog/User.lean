import AccessSync.Connector
import AccessSync.Text.Case

/-!
# Users

Users come from the directory and carry no entitlements of their own. Where the settings ask for
it, the purpose of each mailbox tells people from rooms, equipment and shared mailboxes.
-/

namespace AccessSync.Catalog.User

def fields : List String :=
  ["id", "displayName", "mail", "userPrincipalName", "jobTitle", "accountEnabled", "employeeType",
    "employeeHireDate", "employeeId", "department"]

/-- The mailbox purposes of accounts that are nobody's own. -/
def servicePurposes : List String := ["room", "equipment", "shared"]

/-- The address of a user: the mailbox, else a principal name that is an address. -/
def primaryEmail (user : Value) : Except Misuse Value := do
  let mail := (← user.field "mail").orElse (.text "")
  let name := (← user.field "userPrincipalName").orElse (.text "")
  if mail.isEmpty && Text.contains "@" (← name.asText) then return name else return mail

def profile (user : Value) (accountType : String) : Except Misuse Value := do
  let manager := (← user.field "manager").orElse (.mapping [])
  let enabled := (← user.field? "accountEnabled").getD (.bool false)
  let own := [
    ("id", ← user.field "id"),
    ("mail", ← primaryEmail user),
    ("displayName", ← user.field "displayName"),
    ("jobTitle", ← user.field "jobTitle"),
    ("userPrincipalName", ← user.field "userPrincipalName"),
    ("accountEnabled", enabled),
    ("employeeId", ← user.field "employeeId"),
    ("department", ← user.field "department"),
    ("status", .text (if enabled.holds then "enabled" else "disabled")),
    ("accountType", .text accountType)]
  if manager.isEmpty then return .record own
  else return .record (own ++
    [("managerId", ← manager.field "id"), ("managerEmail", ← manager.field "mail")])

def resource (user : Value) (parent : Option ResourceId) (accountType : String) :
    Except Misuse Resource := do
  let profile ← profile user accountType
  let id ← (← user.require "id").asText
  return { id := ⟨.user, id⟩, displayName := ← user.textField "displayName" id, parent, profile }

def accountTypeOf (settings : Value) : Except Misuse String := do
  match (← (Directory.recordOf settings).field "userPurpose").orElse (.text "user") with
  | .text purpose =>
    return if servicePurposes.contains (Text.lower purpose) then "service" else "human"
  | _ => throw .notRecord

/-- Asks what the mailbox of a user is for; a refusal counts as a person's. -/
def accountType (c : Connector) (id : String) : Act String := do
  let url := Directory.url ["users", id, "mailboxSettings"] [("$select", "userPurpose")] false
  let settings ← (some <$> c.query "GET" url none).onFailure fun f =>
    -- A service that wants fewer requests fails the page, which can be asked for again.
    if f.request?.isSome && !f.isRateLimited then do
      Run.log .warning ResourceType.user.component
        s!"Error fetching mailboxSettings for user {id}: {f.message}"
      return none
    else Run.raise f
  match settings with
  | some body => Run.reading (accountTypeOf body)
  | none => return "human"

def translate (c : Connector) (parent : Option ResourceId) (users : List Value) :
    Act (List Resource) :=
  users.mapM fun user => do
    let kind ← if c.mailboxSettings then do
        accountType c (← Run.reading (do (← user.require "id").asText))
      else pure "human"
    Run.reading (resource user parent kind)

def list (c : Connector) (context : Context Session) (parent : Option ResourceId)
    (cursor : String) : Act (List Resource × String) :=
  let firstUrl := Directory.url ["users"] [
    ("$select", Connector.fieldList fields),
    ("$expand", "manager($select=id,employeeId,mail,displayName)"),
    ("$top", "999")] false
  c.step .user context [c.directoryPhase "users" firstUrl (translate c parent)] cursor

end AccessSync.Catalog.User
