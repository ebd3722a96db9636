import AccessSync.Directory.Client

/-!
# Kinds of principals

A role assignment names its principal by a bare identifier. The directory is asked for it under
several endpoints until one answer settles what it is. Answers that settle it are kept.
-/

namespace AccessSync.Directory

def resolverComponent : String := "PrincipalTypeResolver"

def lookupEndpoints : List String := ["directoryObjects", "users", "groups", "servicePrincipals"]

inductive Evidence where
  | none
  | servicePrincipal
  | settled (principal : Principal)
  deriving DecidableEq

/-- The evidence of an answer. A compound value is no discriminator. -/
def evidenceOf (body : Value) : Except Misuse Evidence := do
  if body.isEmpty then return .none
  match ← body.field "@odata.type" with
  | .text s =>
    if s = userDiscriminator then return .settled .user
    else if s = groupDiscriminator then return .settled .group
    else if s = servicePrincipalDiscriminator then
      match ← (← body.field "servicePrincipalType").nonemptyText? with
      | some subtype => return .settled (.servicePrincipal (some subtype))
      | none => return .servicePrincipal
    else return .none
  | .list (_ :: _) | .mapping (_ :: _) => throw .wrongKind
  | _ => return .none

/-- Asks one endpoint. A refusal counts as no answer, unless the directory wants fewer requests. -/
def lookUp (world : World) (settings : Settings) (endpoint id : String) : Act Value :=
  (query world settings defaultScopes "GET" (url [endpoint, id] [] false) none).onFailure fun f =>
    if f.request?.isSome && !f.isRateLimited then do
      Run.log .debug resolverComponent s!"Lookup {endpoint} for {id} failed: {f.message}"
      return .null
    else Run.raise f

/-- Asks the endpoints in turn; `partly` says that an earlier answer was a service principal of
unknown subtype. -/
def askEndpoints (world : World) (settings : Settings) (id : String) (partly : Bool) :
    List String → Act Principal
  | [] =>
    if partly then return .servicePrincipal none
    else do
      Run.log .info resolverComponent s!"Could not resolve the type of directory object {id}"
      return .unknown
  | endpoint :: rest => do
    match ← Run.reading (evidenceOf (← lookUp world settings endpoint id)) with
    | .settled principal => return principal
    | .servicePrincipal => askEndpoints world settings id true rest
    | .none => askEndpoints world settings id partly rest

/-- What kind of principal an identifier stands for. With `keep`, known answers are used and new
ones that are not unknown are kept. -/
def resolve (world : World) (settings : Settings) (keep : Bool) (id : String) : Act Principal := do
  let known ← if keep then Cache.lookup Session.principalPart id else pure none
  match known with
  | some principal => return principal
  | none =>
    let principal ← askEndpoints world settings id false lookupEndpoints
    -- This keeps a service principal of unknown subtype as well, even where an endpoint that
    -- might have told the subtype refused.
    if keep && principal != .unknown then Cache.store Session.principalPart id principal
    return principal

end AccessSync.Directory
