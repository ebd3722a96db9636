import AccessSync.Resource.Basic
import AccessSync.Value.Literal

/-!
# Faults

What can go wrong, by cause. A `Failure` is one of the causes that callers handle, together with
the phase of an enumeration in which it arose; a `Defect` is anything else.
-/

namespace AccessSync

/-! ## Causes -/

inductive ConfigurationFault where
  | notBoolean (key : String) (given : Value)
  | notInteger (key : String) (given : Value)
  | belowOne (key : String) (given : Int)
  | negativeThreshold
  | conflictingCredentials
  | unpairedCredentials
  | tenantMissing
  | unreadable (file : String)
  | notMapping (file : String)
  | noOrganization

def ConfigurationFault.message : ConfigurationFault → String
  | .notBoolean key given => s!"{key} must be a boolean, got " ++ given.literal
  | .notInteger key given => s!"{key} must be an integer, got " ++ given.literal
  | .belowOne key given => s!"{key} must be at least 1, got {given}"
  | .negativeThreshold => "small_page_threshold must not be negative"
  | .conflictingCredentials =>
    "use_cli_credentials cannot be combined with azure_client_id or azure_client_secret"
  | .unpairedCredentials => "azure_client_id and azure_client_secret must be set together"
  | .tenantMissing => "azure_tenant_id is required with azure_client_id/azure_client_secret"
  | .unreadable file => s!"Error parsing YAML configuration file {file}"
  | .notMapping file => s!"Configuration file {file} must contain a mapping"
  | .noOrganization => "Graph returned no organization for the configured tenant"

inductive CursorFault where
  | notJson
  | notObject
  | version (given : Value)
  | noPhaseList
  | entryNotObject
  | noTag
  | fieldNotText (field : String)
  | unknownPhase (tag label : String)
  | badMarker (token phase : String)

def CursorFault.message : CursorFault → String
  | .notJson => "cursor is not valid JSON"
  | .notObject => "cursor must be a JSON object"
  | .version given => "unsupported cursor version: " ++ given.literal
  | .noPhaseList => "cursor is missing its phase list"
  | .entryNotObject => "cursor phase entries must be JSON objects"
  | .noTag => "cursor phase is missing its tag"
  | .fieldNotText field => "cursor field " ++ Text.quoted field ++ " must be a string"
  | .unknownPhase tag label => "unknown cursor phase " ++ Text.quoted tag ++ s!" for {label}"
  | .badMarker token phase => "invalid page marker " ++ Text.quoted token ++ s!" for phase {phase}"

/-- The kinds of compound identifiers that records carry. -/
inductive IdentifierKind where
  | roleDefinition
  | roleResource
  | azureResource
  | connectorResource
  | container
  | resourceGroup
  deriving DecidableEq

def IdentifierKind.noun : IdentifierKind → String
  | .roleDefinition => "role definition ID"
  | .roleResource => "role resource ID"
  | .azureResource => "Azure resource ID"
  | .connectorResource => "connector resource ID"
  | .container => "container ID"
  | .resourceGroup => "resource group ID"

inductive RecordFault where
  | noRoleDefinition
  | badIdentifier (kind : IdentifierKind) (given : String)

def RecordFault.message : RecordFault → String
  | .noRoleDefinition => "role assignment is missing its role definition ID"
  | .badIdentifier kind given => "invalid " ++ kind.noun ++ ": " ++ Text.quoted given

inductive RequestFaultKind where
  | notFound
  | unauthorized
  | rateLimited (retryAfter : Int)
  | other
  deriving DecidableEq

structure RequestFault where
  kind : RequestFaultKind
  message : String
  status : Option Int
  url : Option String
  deriving DecidableEq

inductive ProvisioningFault where
  /-- The principal of a change to a `target` is not a user. -/
  | onlyUsers (target : String)
  | unsupported (target entitlement : String)
  | noAssignment (role principal scope : String)

def ProvisioningFault.message : ProvisioningFault → String
  | .onlyUsers target => s!"only users can be granted {target}"
  | .unsupported target entitlement =>
    s!"unsupported {target} entitlement " ++ Text.quoted entitlement
  | .noAssignment role principal scope => s!"no assignment of role {role} to {principal} at {scope}"

inductive Category where
  | general
  | configuration
  | malformedCursor
  | cancelled
  | malformedRecord
  | unknownMembership
  | cacheBuild
  | provisioning
  deriving DecidableEq

inductive Cause where
  | configuration (fault : ConfigurationFault)
  | cursor (fault : CursorFault)
  | cancelled
  | request (fault : RequestFault)
  | record (fault : RecordFault)
  /-- An owner whose type is not known. -/
  | unknownMembership (type slug : String) (resource : ResourceId) (member : String)
  | cacheBuild (scope reason : String)
  | provisioning (fault : ProvisioningFault)
  /-- A cause in the words of a caller. -/
  | stated (category : Category) (text : String)

def Cause.message : Cause → String
  | .configuration fault => fault.message
  | .cursor fault => fault.message
  | .cancelled => "sync was cancelled"
  | .request fault => fault.message
  | .record fault => fault.message
  | .unknownMembership type slug resource member =>
    "unknown membership type " ++ Text.quoted type ++ s!" for {slug} of " ++ resource.text ++
      s!" (id={member})"
  | .cacheBuild scope reason => s!"failed to build role assignment index for {scope}: {reason}"
  | .provisioning fault => fault.message
  | .stated _ text => text

/-- The class of a cause; a failed request belongs to none of the classes. -/
def Cause.category? : Cause → Option Category
  | .configuration _ => some .configuration
  | .cursor _ => some .malformedCursor
  | .cancelled => some .cancelled
  | .request _ => none
  | .record _ => some .malformedRecord
  | .unknownMembership .. => some .unknownMembership
  | .cacheBuild .. => some .cacheBuild
  | .provisioning _ => some .provisioning
  | .stated category _ => some category

/-! ## Failures -/

/-- A cause with the phase of an enumeration in which it arose, if any. -/
structure Failure where
  cause : Cause
  phase : Option String := none

namespace Failure

def message (f : Failure) : String := f.cause.message

def request? (f : Failure) : Option RequestFault :=
  match f.cause with
  | .request fault => some fault
  | _ => none

def isNotFound (f : Failure) : Bool :=
  match f.cause with
  | .request fault => fault.kind == .notFound
  | _ => false

def isRateLimited (f : Failure) : Bool :=
  match f.cause with
  | .request ⟨.rateLimited _, _, _, _⟩ => true
  | _ => false

def isCancelled (f : Failure) : Bool := f.cause.category? == some .cancelled

/-- The failure as one of the phase `tag`, unless it has a phase already. -/
def inPhase (tag : String) (f : Failure) : Failure :=
  { f with phase := f.phase.or (some tag) }

end Failure

/-! ## Defects -/

inductive ServiceErrorKind where
  | resourceNotFound
  | authentication
  | resourceExists
  | httpResponse
  | serviceRequest
  /-- An error of the library that is none of the others. -/
  | general
  /-- An error from outside the library. -/
  | foreign
  deriving DecidableEq

namespace ServiceErrorKind

def all : List ServiceErrorKind :=
  [resourceNotFound, authentication, resourceExists, httpResponse, serviceRequest, general, foreign]

def name : ServiceErrorKind → String
  | resourceNotFound => "not-found"
  | authentication => "authentication"
  | resourceExists => "exists"
  | httpResponse => "refusal"
  | serviceRequest => "unreachable"
  | general => "general"
  | foreign => "foreign"

end ServiceErrorKind

structure ServiceError where
  kind : ServiceErrorKind
  message : String
  status : Option Int
  /-- The header that says when to try again. -/
  retryAfter : Option Value

inductive Defect where
  | misuse (misuse : Misuse)
  /-- The component cannot give or take access. -/
  | noProvisioning (component : String)
  | missingFile (file : String)
  /-- There is no place for a file of this name. -/
  | unwritable (file : String)
  | service (error : ServiceError)
  | unexpected (text : String)

def Defect.message : Defect → String
  | .misuse (.missingKey key) => key.literal
  | .misuse .wrongKind => "unsuitable kind of value"
  | .misuse .notRecord => "value is not a record"
  | .misuse .badContent => "unsuitable value"
  | .misuse .tooLarge => "number too large"
  | .noProvisioning component => s!"{component} does not support provisioning."
  | .missingFile file => s!"Configuration file not found: {file}"
  | .unwritable file => "[Errno 2] No such file or directory: " ++ Text.quoted file
  | .service error => error.message
  | .unexpected text => text

/-- Anything that ends an operation early. -/
inductive Fault where
  | failure (failure : Failure)
  | defect (defect : Defect)

def Fault.message : Fault → String
  | .failure f => f.message
  | .defect d => d.message

end AccessSync
