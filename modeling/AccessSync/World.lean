import AccessSync.Fault

/-!
# The outside world

Everything a run asks of the outside is a `Call`, and each kind of call has its own kind of
answer. A `World` answers a call by the calls made before it, so services that change from request
to request are worlds too.
-/

namespace AccessSync

/-! ## Directory requests -/

structure HttpRequest where
  method : String
  url : String
  headers : List (String × String)
  body : Option Value
  timeout : Float

structure HttpResponse where
  status : Int
  headers : List (String × Value)
  body : String

inductive TransportErrorKind where
  | connection
  | timeout
  | other
  deriving DecidableEq

structure TransportError where
  kind : TransportErrorKind
  message : String

/-- The value of a header; names are compared without regard to case. -/
def HttpResponse.header? (r : HttpResponse) (name : String) : Option Value :=
  (r.headers.find? fun (n, _) => n.map Char.toLower == name.map Char.toLower).map Prod.snd

inductive TokenError where
  | transport (message : String)
  | unexpected (message : String)

/-! ## Management calls -/

inductive Listing where
  | subscriptions
  | tenants
  | resourceGroups (subscription : String)
  | storageAccounts (subscription : String)
  | containers (accountUrl : String)
  | roleDefinitions (scope : String)
  | roleAssignments (scope : String)
  deriving DecidableEq

/-- One page of a collection. An error may follow its items. -/
structure ListedPage where
  items : List Value
  next : Option String
  failure : Option ServiceError

def ListedPage.none : ListedPage := ⟨[], Option.none, Option.none⟩

inductive Operation where
  | roleDefinition (id : String)
  | createAssignment (scope name roleDefinitionId principal : String)
  | deleteAssignment (scope name : String)
  deriving DecidableEq

/-- The clients of the management service; most work for one subscription. -/
inductive ManagementClient where
  | authorization (subscription : String)
  | resources (subscription : String)
  | storage (subscription : String)
  | subscriptions
  | blobs (accountUrl : String)
  deriving DecidableEq

/-! ## Pauses -/

inductive PauseError where
  /-- The pause is negative or undefined. -/
  | invalid
  /-- The pause is longer than clocks can count. -/
  | tooLong
  deriving DecidableEq

def PauseError.misuse : PauseError → Misuse
  | .invalid => .badContent
  | .tooLong => .tooLarge

/-! ## Calls -/

inductive Call where
  | request (request : HttpRequest)
  | clientToken (client : Value) (authority : String) (secret : Value) (scopes : List String)
  | credentialToken (scopes : List String)
  | openClient (client : ManagementClient)
  | listPage (listing : Listing) (token : Option String)
  | operate (operation : Operation)
  /-- A name that nothing else has. -/
  | freshName
  | sleep (seconds : Float)
  | clock

def Call.Answer : Call → Type
  | .request _ => Except TransportError HttpResponse
  | .clientToken .. => Except TokenError Value
  | .credentialToken _ => Except ServiceError String
  | .openClient _ => Unit
  | .listPage .. => Except ServiceError ListedPage
  | .operate _ => Except ServiceError Value
  | .freshName => String
  | .sleep _ => Except PauseError Unit
  | .clock => Int

/-- The outside: its answer to a call and whether it has cancelled the run, by the calls made
before, the latest first. -/
structure World where
  answer : (history : List Call) → (call : Call) → call.Answer
  /-- Cancelled by the time the run looks for the signal, having looked `looks` times before. -/
  cancels : (looks : Nat) → (history : List Call) → Bool

end AccessSync
