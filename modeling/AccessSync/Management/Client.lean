import AccessSync.Directory.Client
import AccessSync.Identifier
import AccessSync.Page
import AccessSync.Session

/-!
# Management client

The collections of the management service are read one page at a time and resumed by a
continuation token. Errors of the client library become failures of this library; errors that the
service has no part in pass as they are.
-/

namespace AccessSync.Management

def component : String := "ArmClient"

/-! ## Errors -/

def kindOfStatus (e : ServiceError) : RequestFaultKind :=
  match e.status with
  | some status =>
    if status = 429 || status = 504 then .rateLimited (Directory.retryAfter e.retryAfter)
    else if status = 401 || status = 403 then .unauthorized
    else .other
  | none => .other

def failureOf? (operation : String) (e : ServiceError) : Option RequestFault :=
  let fault (kind : RequestFaultKind) (status : Option Int) : RequestFault :=
    ⟨kind, s!"{operation}: {e.message}", status, some operation⟩
  match e.kind with
  | .resourceNotFound => some (fault .notFound (some 404))
  | .authentication => some (fault .unauthorized e.status)
  | .httpResponse | .resourceExists => some (fault (kindOfStatus e) e.status)
  -- The service has not answered here, so there is nothing to refuse with.
  | .serviceRequest | .general | .foreign => none

def refuse {α : Type} (operation : String) (e : ServiceError) : Act α :=
  match failureOf? operation e with
  | some fault => Run.fail (.request fault)
  | none => Run.defect (.service e)

/-! ## Clients -/

def withClient (world : World) (client : ManagementClient) : Act Unit := do
  if !(← get).clients.contains client then
    Act.call world (.openClient client)
    modify fun s => { s with clients := client :: s.clients }

/-! ## Pages -/

/-- The page of a listing after the given token; an empty token stands for the first page. -/
def listPage {ρ : Type} (world : World) (operation : String) (listing : Listing)
    (token : Option String) (convert : Value → Except Misuse ρ) : Act (Page ρ) := do
  match ← Act.call world (.listPage listing (token.filter (!·.isEmpty))) with
  | .error e => refuse operation e
  | .ok page =>
    -- Items are converted as they come in, ahead of an error that follows them.
    let records ← Run.reading (page.items.mapM convert)
    -- Such an error discards the items before it.
    match page.failure with
    | some e => refuse operation e
    | none => return ⟨records, page.next.filter (!·.isEmpty)⟩

def subscriptions (world : World) (token : Option String) : Act (Page Value) := do
  withClient world .subscriptions
  listPage world "subscriptions.list" .subscriptions token .ok

def tenants (world : World) (token : Option String) : Act (Page Value) := do
  withClient world .subscriptions
  listPage world "tenants.list" .tenants token .ok

def resourceGroups (world : World) (subscription : String) (token : Option String) :
    Act (Page Value) := do
  withClient world (.resources subscription)
  listPage world s!"resource_groups.list({subscription})" (.resourceGroups subscription) token .ok

def storageAccounts (world : World) (subscription : String) (token : Option String) :
    Act (Page Value) := do
  withClient world (.storage subscription)
  listPage world s!"storage_accounts.list({subscription})" (.storageAccounts subscription) token .ok

def containerFields (item : Value) : Except Misuse Value := do
  let modified ← item.field "last_modified"
  return .record [
    ("name", ← item.field "name"),
    ("last_modified", if modified.isEmpty then .null else modified),
    ("public_access", ← item.field "public_access"),
    ("has_immutability_policy", ← item.field "has_immutability_policy"),
    ("has_legal_hold", ← item.field "has_legal_hold")]

/-- One page of the blob containers of a storage account; every page has a client of its own. -/
def containers (world : World) (account : String) (token : Option String) : Act (Page Value) := do
  let accountUrl := s!"https://{account}.blob.core.windows.net"
  Act.call world (.openClient (.blobs accountUrl))
  listPage world s!"list_containers({account})" (.containers accountUrl) token containerFields

def roleDefinitions (world : World) (subscription : String) (token : Option String) :
    Act (Page RoleDefinition) := do
  let scope := subscriptionScope subscription
  withClient world (.authorization subscription)
  listPage world s!"role_definitions.list({scope})" (.roleDefinitions scope) token
    RoleDefinition.ofValue

/-- One page of the role assignments that apply at a scope. -/
def roleAssignments (world : World) (subscription scope : String) (token : Option String) :
    Act (Page RoleAssignment) := do
  withClient world (.authorization subscription)
  listPage world s!"role_assignments.list_for_scope({scope})" (.roleAssignments scope) token
    RoleAssignment.ofValue

/-- Takes the role assignments at a scope into `acc` one by one, page after page, in at most
`limit` pages. -/
def foldRoleAssignments {α : Type} (world : World) (subscription scope : String)
    (step : α → RoleAssignment → Act α) : (limit : Nat) → Option String → α → Act α
  | 0, _, _ => Run.unfinished
  | limit + 1, token, acc => do
    let page ← roleAssignments world subscription scope token
    let acc ← page.records.foldlM step acc
    match page.next with
    | none => return acc
    | some next => foldRoleAssignments world subscription scope step limit (some next) acc

/-! ## Single operations -/

/-- The subscription in a role definition path, empty when the path is of another form. -/
def subscriptionOf (path : String) : String :=
  match Text.splitOn '/' path with
  | _ :: keyword :: subscription :: _ =>
    if Text.lower keyword = "subscriptions" then subscription else ""
  | _ => ""

def roleDefinition (world : World) (path : String) : Act RoleDefinition := do
  withClient world (.authorization (subscriptionOf path))
  match ← Act.call world (.operate (.roleDefinition path)) with
  | .error e => refuse s!"role_definitions.get_by_id({path})" e
  | .ok record => Run.reading (RoleDefinition.ofValue record)

/-- Assigns a role to a principal at a scope; nothing is returned if it was assigned already. -/
def createAssignment (world : World) (subscription scope roleDefinitionId principal : String) :
    Act (Option RoleAssignment) := do
  -- The name is drawn before the client is opened.
  let name : String ← Act.call world .freshName
  withClient world (.authorization subscription)
  match ← Act.call world (.operate (.createAssignment scope name roleDefinitionId principal)) with
  | .error e =>
    if e.kind = .resourceExists then
      Run.log .info component
        s!"Role assignment of {roleDefinitionId} to {principal} at {scope} already exists"
      return none
    else refuse s!"role_assignments.create({scope})" e
  | .ok record => return some (← Run.reading (RoleAssignment.ofValue record))

def deleteAssignment (world : World) (subscription scope name : String) : Act Unit := do
  withClient world (.authorization subscription)
  match ← Act.call world (.operate (.deleteAssignment scope name)) with
  | .error e => refuse s!"role_assignments.delete({scope}, {name})" e
  | .ok _ => return

end AccessSync.Management
