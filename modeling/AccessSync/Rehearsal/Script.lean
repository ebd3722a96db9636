import AccessSync.Json.Writer
import AccessSync.Value.Entry
import AccessSync.World

/-!
# Scripted worlds

For a rehearsal the outside is written down as a document: what each request to the directory is
answered with, which pages the management service lists, and how tokens are obtained; these are
its entries `directory`, `management`, `credential` and `identity`, and `now` is the time. An
outcome of the form `seq` is a list of outcomes that are handed out in turn, the last one from then
on. A request that the script does not know finds nothing.
-/

namespace AccessSync

/-- The outside as a document. -/
structure Script where
  directory : Value
  management : Value
  credential : Value
  clientToken : Value
  time : Int

namespace Script

def ofValue (v : Value) : Script where
  directory := v.get "directory"
  management := v.get "management"
  credential := (v.get? "credential").getD (.record [("token", .text "token")])
  clientToken := (v.get? "identity").getD
    (.record [("result", .record [("access_token", .text "token")])])
  time := (v.get "now").int?.getD 0

def hasCredential (script : Script) : Bool := !script.credential.isNull

/-! ## Keys -/

def listingKey : Listing → String
  | .subscriptions => "subscriptions"
  | .tenants => "tenants"
  | .resourceGroups sub => "resource_groups:" ++ sub
  | .storageAccounts sub => "storage_accounts:" ++ sub
  | .containers url => "containers:" ++ url
  | .roleDefinitions scope => "role_definitions:" ++ scope
  | .roleAssignments scope => "role_assignments:" ++ scope

def operationKey : Operation → String
  | .roleDefinition id => "role_definition:" ++ id
  | .createAssignment scope _ _ _ => "create:" ++ scope
  | .deleteAssignment scope name => "delete:" ++ scope ++ ":" ++ name

def requestKey (r : HttpRequest) : String := r.method ++ " " ++ r.url

/-- Two calls are answered by the same outcome of the script. -/
def sameOutcome : Call → Call → Bool
  | .request q, .request r => requestKey q == requestKey r
  | .clientToken .., .clientToken .. | .credentialToken _, .credentialToken _ => true
  | .listPage l t, .listPage m u => decide (l = m) && t == u
  | .operate o, .operate p => operationKey o == operationKey p
  | _, _ => false

/-! ## Outcomes -/

/-- The outcome for a call; where outcomes are handed out in turn, the calls before decide. -/
def inTurn (history : List Call) (call : Call) (v : Value) : Value :=
  match v.get? "seq" with
  | some (.list outcomes) =>
    (outcomes[history.countP (sameOutcome call)]?).getD (outcomes.getLastD .null)
  | _ => v

def isRaise (v : Value) : Bool := (v.get? "raise").isSome

def headers (v : Value) : List (String × Value) := (v.get "headers").fields

/-- The kind of error that a word stands for; other words stand for foreign errors. -/
def serviceErrorKind (word : String) : ServiceErrorKind :=
  (ServiceErrorKind.all.find? (·.name == word)).getD .foreign

def serviceError (v : Value) : ServiceError where
  kind := serviceErrorKind (v.getText "raise")
  message := v.getText "message"
  status := (v.get "status").int?
  retryAfter := (HttpResponse.mk 0 (headers v) "").header? "Retry-After"

def transportKind : String → TransportErrorKind
  | "connection" => .connection
  | "timeout" => .timeout
  | _ => .other

def response (v : Value) : Except TransportError HttpResponse :=
  if isRaise v then .error ⟨transportKind (v.getText "raise"), v.getText "message"⟩
  else .ok {
    status := (v.get "status").int?.getD 200
    headers := headers v
    body := match v.get? "json" with
      | some document => Json.spaced document
      | none => v.getText "body" }

def listedPage (v : Value) : Except ServiceError ListedPage :=
  if isRaise v then .error (serviceError v)
  else .ok {
    items := (v.get "items").items
    next := (v.get "next").text?
    failure := (v.get? "then_raise").map serviceError }

def token (v : Value) : Except TokenError Value :=
  if !isRaise v then .ok (v.get "result")
  else if v.getText "raise" = ServiceErrorKind.foreign.name then
    .error (.unexpected (v.getText "message"))
  else .error (.transport (v.getText "message"))

/-! ## The world -/

def answer (script : Script) (history : List Call) : (call : Call) → call.Answer
  | .request r =>
    match script.directory.get? (requestKey r) with
    | none => .ok ⟨404, [], ""⟩
    | some v => response (inTurn history (.request r) v)
  | .clientToken client authority secret scopes =>
    token (inTurn history (.clientToken client authority secret scopes) script.clientToken)
  | .credentialToken scopes =>
    let v := inTurn history (.credentialToken scopes) script.credential
    if isRaise v then .error (serviceError v) else .ok (v.getText "token")
  | .openClient _ => ()
  | .listPage listing token =>
    match (script.management.get (listingKey listing)).get? (token.getD "") with
    | none => .ok .none
    | some v => listedPage (inTurn history (.listPage listing token) v)
  | .operate operation =>
    match script.management.get? (operationKey operation) with
    | none => .error ⟨.resourceNotFound, "not scripted", none, none⟩
    | some outcome =>
      let v := inTurn history (.operate operation) outcome
      if isRaise v then .error (serviceError v) else .ok (v.get "result")
  | .freshName => "<uuid>"
  | .sleep _ => .ok ()
  | .clock => script.time

/-- The world that follows a script; it never cancels a run. -/
def world (script : Script) : World := ⟨script.answer, fun _ _ => false⟩

end Script

end AccessSync
