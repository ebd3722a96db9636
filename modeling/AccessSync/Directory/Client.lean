import AccessSync.Directory.Url
import AccessSync.Json.Reader
import AccessSync.Moment
import AccessSync.Session
import AccessSync.Value.Number

/-!
# Directory client

Requests to the directory carry a token, are repeated after passing failures with growing pauses,
and end with the decoded body or with a failure that says what kind of refusal it was. Tokens
obtained with a client secret are kept until a minute before they expire.
-/

namespace AccessSync.Directory

def component : String := "GraphClient"

def defaultScopes : List String := ["https://graph.microsoft.com/.default"]

structure Settings where
  config : Value
  hasCredential : Bool
  timeout : Float
  maxAttempts : Int
  baseDelay : Float

def entryOr (config : Value) (key : String) (default : Value) : Value :=
  match config.field? key with
  | .ok (some v) => v
  | _ => default

def Settings.ofConfig (config : Value) (hasCredential : Bool) : Except Misuse Settings := do
  return {
    config
    hasCredential
    timeout := ← (entryOr config "graph_timeout" (.int 30)).toDecimal
    maxAttempts := ← (entryOr config "graph_max_attempts" (.int 3)).toInteger
    baseDelay := ← (entryOr config "graph_base_delay" (.float 1.0)).toDecimal }

/-! ## Tokens -/

/-- The client of a tenant that two settings name. Collections name none. -/
def accountOf (tenant client : Value) : Except Misuse Account := do
  -- Equal numbers name the same account, whatever their kinds are.
  return ⟨(← tenant.toKey).name, (← client.toKey).name⟩

/-- The first second after the last year that dates reach. -/
def endOfDates : Int := 253402300800

def startOfDates : Int := -62135596800

/-- The time that a token obtained at `now` is used until. -/
def expiry (now : Int) (result : Value) : Except Misuse Int := do
  let lifetime ← (entryOr result "expires_in" (.int 3600)).toInteger
  let expires := now + (lifetime - 60)
  -- The end has to be a date, since the log shows it as one.
  if startOfDates ≤ expires && expires < endOfDates then return expires else throw .tooLarge

def refusal (result : Value) : Except Misuse Value := do
  return (← result.field "error_description").orElse (← result.field "error")

def serviceFailure {α : Type} (kind : RequestFaultKind) (message : String) : Act α :=
  Run.fail (.request ⟨kind, message, none, none⟩)

/-- A token for the tenant and client of the configuration: the one that is held while it is in
use, else a new one, which is held from then on. -/
def clientToken (world : World) (config : Value) (scopes : List String) : Act Value := do
  let tenant ← Run.reading (config.require "azure_tenant_id")
  let client ← Run.reading (config.require "azure_client_id")
  let now : Int ← Act.call world .clock
  let account ← Run.reading (accountOf tenant client)
  match ← Cache.lookup Session.tokenPart account with
  | some held =>
    if now < held.expires then
      Run.log .debug component ("Using cached Graph token for tenant " ++ tenant.display)
      return held.token
    else issue tenant client account now
  | none => issue tenant client account now
where
  issue (tenant client : Value) (account : Account) (now : Int) : Act Value := do
    -- A token that is held has been returned without looking for a secret.
    let secret ← Run.reading (config.require "azure_client_secret")
    let wanted := if scopes.isEmpty then defaultScopes else scopes
    let answer ← Act.call world
      (.clientToken client ("https://login.microsoftonline.com/" ++ tenant.display) secret wanted)
    match answer with
    | .error (.transport message) =>
      serviceFailure .other
        ("Token request for tenant " ++ tenant.display ++ s!" failed: {message}")
    | .error (.unexpected message) => Run.defect (.unexpected message)
    | .ok result =>
      match ← Run.reading (result.field? "access_token") with
      | none =>
        serviceFailure .unauthorized ("Failed to obtain Graph token for tenant " ++
          tenant.display ++ ": " ++ (← Run.reading (refusal result)).display)
      | some token =>
        let expires ← Run.reading (expiry now result)
        Cache.store Session.tokenPart account ⟨token, expires⟩
        Run.log .debug component ("Graph token acquired for tenant " ++ tenant.display ++
          ", expires at " ++ Moment.international expires)
        return token

/-- A token for a request: with the client secret where one is configured, else from the ambient
credential. -/
def token (world : World) (settings : Settings) (scopes : List String) : Act Value := do
  if (entryOr settings.config "azure_client_secret" .null).holds
      && (entryOr settings.config "azure_client_id" .null).holds then
    clientToken world settings.config scopes
  else if !settings.hasCredential then
    serviceFailure .unauthorized "No Graph credential configured"
  else
    match ← Act.call world (.credentialToken scopes) with
    | .ok token => return .text token
    | .error e =>
      match e.kind with
      | .authentication =>
        serviceFailure .unauthorized s!"Failed to obtain Graph token: {e.message}"
      | .foreign => Run.defect (.unexpected e.message)
      | _ => serviceFailure .other s!"Graph credential failed: {e.message}"

/-! ## Requests -/

def headers (token : Value) : List (String × String) :=
  [("Authorization", "Bearer " ++ token.display), ("Content-Type", "application/json"),
    ("Accept", "application/json"), ("ConsistencyLevel", "eventual")]

/-- The seconds after which a service wants to be asked again, zero if it does not say. -/
def retryAfter (header : Option Value) : Int :=
  match header with
  | none => 0
  | some v => match v.toInteger with
    | .ok n => n
    | .error _ => 0

def refusalKind (response : HttpResponse) : RequestFaultKind :=
  let status := response.status
  if status = 404 then .notFound
  else if status = 429 || status = 504 then
    .rateLimited (retryAfter (response.header? "Retry-After"))
  else if status = 401 || status = 403 then .unauthorized
  else .other

def requestName (method url : String) : String := method ++ " " ++ url

/-- The body of an answer, null when there is none, or the failure that the answer stands for. -/
def interpret (method url : String) (response : HttpResponse) : Act Value := do
  let name := requestName method url
  let status := response.status
  if 400 ≤ status then
    -- Whoever looks for a word of the service in the failure finds it in this part only.
    let detail := Text.take 500 response.body
    Run.fail (.request
      ⟨refusalKind response, s!"{name} failed with {status}: {detail}", some status, some url⟩)
  else if status = 204 || response.body.isEmpty then return .null
  else match Json.parse? response.body with
    | some body => return body
    | none =>
      Run.fail (.request ⟨.other, s!"{name} returned a non-JSON body", some status, some url⟩)

def isPassing (status : Int) : Bool := status = 500 || status = 502 || status = 503

/-- The pause after the given number of failed attempts: it doubles with each. -/
def pause (baseDelay : Float) (attempt : Nat) : Except Misuse Float :=
  -- From here on the power of two is larger than any double.
  if 1024 < attempt then .error .tooLarge
  else .ok (baseDelay * Float.ofNat (Nat.pow 2 (attempt - 1)))

def backOff (world : World) (settings : Settings) (name : String) (attempt : Nat)
    (reason : String) : Act Unit := do
  let delay ← Run.reading (pause settings.baseDelay attempt)
  let seconds := Decimal.text delay
  Run.log .warning component
    s!"Request {name} failed on attempt {attempt}: {reason}. Retrying in {seconds} seconds..."
  let paused ← Act.call world (.sleep delay)
  Run.reading (paused.mapError PauseError.misuse)

def passingReason? : Except TransportError HttpResponse → Option String
  | .error e => if e.kind = .other then none else some e.message
  | .ok response =>
    if isPassing response.status then some ("HTTP " ++ toString response.status) else none

def conclude (request : HttpRequest) (attempt : Nat) :
    Except TransportError HttpResponse → Act Value
  | .ok response => interpret request.method request.url response
  | .error e =>
    let name := requestName request.method request.url
    let message :=
      if e.kind = .other then s!"{name} failed: {e.message}"
      else s!"{name} failed after {attempt} attempts: {e.message}"
    Run.fail (.request ⟨.other, message, none, some request.url⟩)

def send (world : World) (settings : Settings) (request : HttpRequest) (attempt : Nat) :
    (remaining : Nat) → Act Value
  | 0 => do
    conclude request attempt (← Act.call world (.request request))
  | fewer + 1 => do
    let answer ← Act.call world (.request request)
    match passingReason? answer with
    | some reason =>
      backOff world settings (requestName request.method request.url) attempt reason
      send world settings request (attempt + 1) fewer
    | none => conclude request attempt answer

def query (world : World) (settings : Settings) (scopes : List String) (method url : String)
    (body : Option Value) : Act Value := do
  -- All attempts use the same token, even if it expires meanwhile.
  let token ← token world settings scopes
  -- At least one attempt is made, also where the settings ask for none.
  send world settings ⟨method, url, headers token, body, settings.timeout⟩ 1
    (settings.maxAttempts - 1).toNat

def recordOf (body : Value) : Value := body.orElse (.mapping [])

structure CollectionPage where
  records : Value
  nextLink : Value

def fetchPage (world : World) (settings : Settings) (url : String) : Act CollectionPage := do
  let body := recordOf (← query world settings defaultScopes "GET" url none)
  -- Null is not absent: it is taken for the records, which it cannot be.
  let records := (← Run.reading (body.field? "value")).getD (.list [])
  let nextLink ← Run.reading (body.field "@odata.nextLink")
  return ⟨records, if nextLink.isEmpty then .null else nextLink⟩

def organizationIds (world : World) (settings : Settings) : Act (List String) := do
  let body := recordOf
    (← query world settings defaultScopes "GET" (url ["organization"] [] false) none)
  let organizations ← Run.reading ((← Run.reading (body.field? "value")).getD (.list [])).elements
  Run.filterMap (fun organization => do
    Run.reading (← Run.reading (organization.field "id")).nonemptyText?) organizations

end AccessSync.Directory
