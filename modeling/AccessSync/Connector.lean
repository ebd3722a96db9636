import AccessSync.Directory.Principal
import AccessSync.Enumeration
import AccessSync.RoleIndex

/-!
# Connectors

A connector holds the settings of one run and the world it talks to. All that changes during the
run is in the session, so every component of a connector sees the same caches.
-/

namespace AccessSync

/-- The settings of a run and the outside it talks to. -/
structure Connector where
  world : World
  /-- The most pages that one enumeration may have. -/
  limit : Nat
  config : Value
  directory : Directory.Settings
  shortPageExit : Bool
  threshold : Int
  /-- The records per page of an enumeration from memory. -/
  pageSize : Except Misuse Int
  mailboxSettings : Bool
  /-- Leaves out what is synchronised from an on-premises directory. -/
  skipOnPremises : Bool
  index : RoleIndex

namespace Connector

def component : String := "Connector"

def name : String := "azure-access-connector"

def thresholdOf (config : Value) : Except Misuse Int :=
  match Directory.entryOr config "small_page_threshold" (.int Paging.defaultThreshold) with
  | .int n => .ok n
  | .bool b => .ok (if b then 1 else 0)
  | _ => .error .wrongKind

def flag (config : Value) (key : String) (default : Bool) : Bool :=
  (Directory.entryOr config key (.bool default)).holds

def ofConfig (world : World) (limit : Nat) (config : Value) (hasCredential : Bool) :
    Except Misuse Connector := do
  return {
    world
    limit
    config
    directory := ← Directory.Settings.ofConfig config hasCredential
    shortPageExit := flag config "small_page_heuristic" true
    threshold := ← thresholdOf config
    -- A size that is no number is not noticed until an enumeration needs it.
    pageSize := (Directory.entryOr config "page_size" (.int 100)).toInteger
    mailboxSettings := flag config "mailbox_settings" false
    skipOnPremises := flag config "skip_ad_groups" false
    -- The cache is empty at this point, so the index keeps its entries by itself.
    index := RoleIndex.onCache world limit .empty }

variable (c : Connector)

def context : Context Session := Act.context c.world

def paging (type : ResourceType) : Paging := ⟨c.shortPageExit, c.threshold, type.component⟩

def translator (type : ResourceType) : Translator := ⟨type.component, type.component⟩

/-- Carries a decision on a record out for the component of a kind of resource. -/
def settle (type : ResourceType) (verdict : Verdict) : Act (Option Grant) :=
  AccessSync.settle (translator type) (Session.tallyPart type) verdict

/-- Tells for the component of a kind of resource what kind of resource a service principal is. -/
def classify (type : ResourceType) (subtype : Option String) (object : String)
    (recordId : Value) : Act (Option ResourceType) :=
  AccessSync.classify (translator type) (Session.tallyPart type) subtype object recordId

def query (method url : String) (body : Option Value) : Act Value :=
  Directory.query c.world c.directory Directory.defaultScopes method url body

def principal (id : String) : Act Principal :=
  Directory.resolve c.world c.directory true id

/-! ## Organizations -/

/-- The organizations of the tenant, asked for once. -/
def organizationIds : Act (List String) := do
  match (← get).organizations with
  | some ids => return ids
  | none =>
    -- No organization at all is an answer too, and it is kept.
    let ids ← Directory.organizationIds c.world c.directory
    modify fun s => { s with organizations := some ids }
    Run.log .debug component
      ("Tenant organization IDs: " ++ (Value.list (ids.map .text)).literal)
    return ids

def validate : Act Unit := do
  if (← c.organizationIds).isEmpty then Run.fail (.configuration .noOrganization)
  Run.log .info component "Connector credentials validated"

def metadata : Value :=
  .record [
    ("name", .text name),
    ("description", .text "Syncs Entra ID identities and Azure RBAC access"),
    ("resource_types", .list (ResourceType.all.map fun t => .text t.name)),
    ("tenant_id", Directory.entryOr c.config "azure_tenant_id" .null)]

/-! ## Phases -/

/-- A page of records with the token of the next one. -/
def collectionPage (page : Directory.CollectionPage) : Except Misuse (Page Value) := do
  return ⟨← page.records.elements,
    if page.nextLink.isEmpty then none else some page.nextLink.display⟩

/-- A phase over a collection of the directory; its tokens are the addresses of pages. -/
def directoryPhase {ι : Type} (tag firstUrl : String) (translate : List Value → Act (List ι)) :
    Phase Session ι where
  tag
  Record := Value
  fetch token := do
    let url := (token.filter (!·.isEmpty)).getD firstUrl
    Run.reading (collectionPage (← Directory.fetchPage c.world c.directory url))
  translate
  initialToken := none
  notFoundIsEmpty := true
  shortPageExit := true

/-- A phase over a collection of the management service. Its pages vary in size, so a short one
means nothing. -/
def managementPhase {ρ ι : Type} (tag : String) (fetch : Option String → Act (Page ρ))
    (translate : List ρ → Act (List ι)) : Phase Session ι where
  tag
  Record := ρ
  fetch
  translate
  initialToken := none
  notFoundIsEmpty := true
  shortPageExit := false

/-- The position that a bound of a range stands for: from the end when negative, and within the
list in any case. -/
def clamp (length : Nat) (bound : Int) : Nat :=
  if bound < 0 then (bound + length).toNat else min bound.toNat length

def range {ρ : Type} (records : List ρ) (first last : Int) : List ρ :=
  let start := clamp records.length first
  (records.drop start).take (clamp records.length last - start)

/-- The offset that a marker stands for, zero for none. -/
def offsetOf? (token : Option String) : Option Int :=
  match token.filter (!·.isEmpty) with
  | none => some 0
  | some marker => integerOfText? marker

/-- The page of a list that starts at an offset; its token is the offset after it. -/
def pageAt {ρ : Type} (records : List ρ) (size offset : Int) : Page ρ :=
  let next := offset + size
  ⟨range records offset next, if next < records.length then some (toString next) else none⟩

/-- A phase over a list in memory; its tokens are offsets. -/
def markerPhase {ρ ι : Type} (tag : String) (size : Int) (loadAll : Act (List ρ))
    (translate : List ρ → Act (List ι)) : Phase Session ι where
  tag
  Record := ρ
  fetch token := do
    -- The list is loaded before the marker is read.
    let records ← loadAll
    match offsetOf? token with
    -- Any offset will do, a negative one as well.
    | some offset => return pageAt records size offset
    | none => Run.fail (.cursor (.badMarker (token.getD "") tag))
  translate
  initialToken := none
  notFoundIsEmpty := true
  shortPageExit := false

def step {ι : Type} (type : ResourceType) (context : Context Session)
    (phases : List (Phase Session ι)) (cursor : String) : Act (List ι × String) :=
  Enumeration.step (c.paging type) context phases cursor

def drain {ι : Type} (operation : String → Act (List ι × String)) : Act (List ι) :=
  Enumeration.drain c.limit operation

def noProvisioning (type : ResourceType) : Act Unit := Run.defect (.noProvisioning type.component)

def requireUser (type : ResourceType) (principal : ResourceId) (target : String) : Act Unit := do
  if principal.type != .user then
    Run.log .warning type.component
      (s!"Only users can be granted {target} (got " ++ principal.text ++ ")")
    Run.fail (.provisioning (.onlyUsers target))

def objectReference (id : String) : Value :=
  .record [("@odata.id", .text (Directory.host ++ "/v1.0/directoryObjects/" ++ id))]

def fieldList (names : List String) : String := separated "," names

def withOnPremisesFilter (parameters : List (String × String)) : List (String × String) :=
  if c.skipOnPremises then
    parameters ++ [("$filter", "(onPremisesSyncEnabled ne true)"), ("$count", "true")]
  else parameters

end Connector

end AccessSync
