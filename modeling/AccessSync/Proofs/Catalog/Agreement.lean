import AccessSync.Catalog
import AccessSync.Proofs.Enumeration.Agreement
import AccessSync.Proofs.Management.Agreement

/-!
# Operations that agree

Listing a kind of resource, naming entitlements and listing grants are made of requests, of pages
and of what the connector keeps.  `Companions` says of a relation of sessions that each of these
agrees; then so do the operations of the kind.  What a kind has for itself need agree only there:
the drops of its own component, and for the applications their listing and their kept records.
-/

namespace AccessSync

variable {R : Session → Session → Prop} {c : Connector}

/-! ## What a component has for itself -/

namespace Connector

theorem agrees_settle (silent : Silent R) {type : ResourceType}
    (same : ∀ s t, R s t → s.tallies type = t.tallies type)
    (set : ∀ tally s t, R s t →
      R ((Session.tallyPart type).set tally s) ((Session.tallyPart type).set tally t))
    (verdict : Verdict) : Agrees R (settle type verdict) := by
  cases verdict with
  | granted grant => exact Agree.pure _
  | dropped drop =>
    have changed (change : DropTally → DropTally) : Agrees R (modify fun s =>
        (Session.tallyPart type).set (change ((Session.tallyPart type).get s)) s) :=
      Agree.modify fun u v related => by
        have tallies : (Session.tallyPart type).get u = (Session.tallyPart type).get v :=
          same u v related
        rw [tallies]
        exact set _ u v related
    have dropped : Agrees R (settleDrop (translator type) (Session.tallyPart type) drop) := by
      refine (changed (·.add drop.key)).bind fun _ => Agree.read fun s t related => ?_
      have tally : (Session.tallyPart type).get s = (Session.tallyPart type).get t :=
        same s t related
      simp only [tally]
      split
      next =>
        exact (changed (·.report drop.key)).bind fun _ => agrees_log silent _ _ _
      next => exact Agree.pure _
    exact dropped.bind fun _ => Agree.pure _
  | skipped principal resource =>
    exact (agrees_log silent _ _ _).bind fun _ => Agree.pure _
  | refused type slug resource member => exact Agree.throw _

theorem agrees_classify {type : ResourceType} (settles : ∀ verdict, Agrees R (settle type verdict))
    (subtype : Option String) (object : String) (recordId : Value) :
    Agrees R (classify type subtype object recordId) := by
  unfold classify AccessSync.classify
  split
  next => exact Agree.pure _
  next => exact (settles _).bind fun _ => Agree.pure _

theorem agrees_organizationIds (connected : Directory.Connected R c.world c.directory)
    (same : ∀ s t, R s t → s.organizations = t.organizations)
    (set : ∀ ids s t, R s t → R { s with organizations := ids } { t with organizations := ids }) :
    Agrees R c.organizationIds := by
  refine Agree.read fun s t related => ?_
  rw [same s t related]
  split
  next => exact Agree.pure _
  next =>
    refine (Directory.agrees_organizationIds connected).bind fun ids => ?_
    refine (Agree.modify fun s t after => set (some ids) s t after).bind fun _ => ?_
    exact (agrees_log connected.silent _ _ _).bind fun _ => Agree.pure _

end Connector

/-- Related sessions are alike in all that the work on a kind of resource is made of. -/
structure Companions (R : Session → Session → Prop) (c : Connector) (type : ResourceType) :
    Prop where
  attuned : Enumeration.Attuned R c.context c.context
  directory : Directory.Connected R c.world c.directory
  management : Management.Connected R c.world
  principal : ∀ id, Agrees R (c.principal id)
  index : ∀ subscription scope, Agrees R (c.index.assignmentsByRole subscription scope)
  definition : ∀ path, Agrees R (Catalog.Storage.roleDefinition c path)
  settle : ∀ verdict, Agrees R (Connector.settle type verdict)
  applications : type = .enterpriseApplication →
    ∀ parent text, Agrees R (Catalog.Application.list c c.context parent text)
  record : type = .enterpriseApplication → ∀ id, Agrees R (Catalog.Application.record c id)

/-- Related sessions are alike in all that the grants of a kind of resource are made of, whatever
the signal is. -/
structure Fellows (R : Session → Session → Prop) (c : Connector) (type : ResourceType) : Prop where
  directory : Directory.Connected R c.world c.directory
  management : Management.Connected R c.world
  principal : ∀ id, Agrees R (c.principal id)
  index : ∀ subscription scope, Agrees R (c.index.assignmentsByRole subscription scope)
  definition : ∀ path, Agrees R (Catalog.Storage.roleDefinition c path)
  settle : ∀ verdict, Agrees R (Connector.settle type verdict)
  record : type = .enterpriseApplication → ∀ id, Agrees R (Catalog.Application.record c id)

variable {type : ResourceType}

theorem Companions.fellows (companions : Companions R c type) : Fellows R c type where
  directory := companions.directory
  management := companions.management
  principal := companions.principal
  index := companions.index
  definition := companions.definition
  settle := companions.settle
  record := companions.record

/-! ## Phases -/

namespace Connector

theorem agrees_fetch_directoryPhase {ι : Type}
    (directory : Directory.Connected R c.world c.directory) (tag firstUrl : String)
    (translate : List Value → Act (List ι)) (token : Option String) :
    Agrees R ((c.directoryPhase tag firstUrl translate).fetch token) :=
  (Directory.agrees_fetchPage directory _).bind fun _ => Agree.reading _

theorem agrees_fetch_markerPhase {ρ ι : Type} (tag : String) (size : Int)
    {loadAll : Act (List ρ)} (loads : Agrees R loadAll) (translate : List ρ → Act (List ι))
    (token : Option String) : Agrees R ((markerPhase tag size loadAll translate).fetch token) := by
  refine loads.bind fun records => ?_
  split
  next => exact Agree.pure _
  next => exact Agree.throw _

end Connector

section Companions

variable (companions : Companions R c type)

include companions

namespace Connector

theorem agrees_query (method url : String) (body : Option Value) :
    Agrees R (c.query method url body) :=
  Directory.agrees_query companions.directory method url body

/-- A step through one phase over a collection of the directory. -/
theorem agrees_step_directory {ι : Type} (kind : ResourceType) (tag firstUrl : String)
    {translate : List Value → Act (List ι)} (each : ∀ records, Agrees R (translate records))
    (text : String) :
    Agrees R (c.step kind c.context [c.directoryPhase tag firstUrl translate] text) := by
  refine Enumeration.agrees_step companions.attuned ?_ ?_ text
  · simp only [List.forall_mem_cons]
    exact ⟨agrees_fetch_directoryPhase companions.directory tag firstUrl translate, by simp⟩
  · simp only [List.forall_mem_cons]
    exact ⟨each, by simp⟩

/-- A step through one phase over a collection of the management service. -/
theorem agrees_step_management {ρ ι : Type} (kind : ResourceType) (tag : String)
    {fetch : Option String → Act (Page ρ)} (fetches : ∀ token, Agrees R (fetch token))
    {translate : List ρ → Act (List ι)} (each : ∀ records, Agrees R (translate records))
    (text : String) :
    Agrees R (c.step kind c.context [managementPhase tag fetch translate] text) := by
  refine Enumeration.agrees_step companions.attuned ?_ ?_ text
  · simp only [List.forall_mem_cons]
    exact ⟨fetches, by simp⟩
  · simp only [List.forall_mem_cons]
    exact ⟨each, by simp⟩

end Connector

namespace Catalog

open Connector (agrees_step_directory agrees_step_management)

/-! ## Listing -/

theorem agrees_translate_users (parent : Option ResourceId) (users : List Value) :
    Agrees R (User.translate c parent users) := by
  have purpose (id : String) : Agrees R (User.accountType c id) := by
    have asked : Agrees R (some <$> c.query "GET"
        (Directory.url ["users", id, "mailboxSettings"] [("$select", "userPurpose")] false) none) :=
      (Connector.agrees_query companions _ _ _).bind fun body => Agree.pure (some body)
    refine Agree.bind (asked.onFailure fun failure => ?_) fun settings => ?_
    · split
      next => exact (agrees_log companions.directory.silent _ _ _).bind fun _ => Agree.pure _
      next => exact Agree.throw _
    · split
      next => exact Agree.reading _
      next => exact Agree.pure _
  refine Agree.mapM fun user _ => ?_
  split
  next =>
    refine (Agree.reading _).bind fun id => ?_
    exact (purpose id).bind fun kind => Agree.reading _
  next => exact (Agree.pure _).bind fun kind => Agree.reading _

theorem agrees_list (parent : Option ResourceId) (text : String) :
    Agrees R (Catalog.list c type c.context parent text) := by
  -- Kinds that are listed under a parent have nothing to list without one.
  have pages := companions.management
  cases type with
  | user =>
    exact agrees_step_directory companions .user _ _ (agrees_translate_users companions parent) text
  | group => exact agrees_step_directory companions .group _ _ (fun _ => Agree.reading _) text
  | enterpriseApplication => exact companions.applications rfl parent text
  | managedIdentity =>
    exact agrees_step_directory companions .managedIdentity _ _ (fun _ => Agree.reading _) text
  | tenant =>
    exact agrees_step_management companions .tenant _ (Management.agrees_tenants pages)
      (fun _ => Agree.reading _) text
  | subscription =>
    refine agrees_step_management companions .subscription _ (Management.agrees_subscriptions pages)
      (fun records => (Agree.reading _).bind fun resources => ?_) text
    exact (agrees_log pages.silent _ _ _).bind fun _ => Agree.pure _
  | resourceGroup =>
    simp only [Catalog.list, ResourceGroup.list]
    split
    next => exact Agree.pure _
    next =>
      exact agrees_step_management companions .resourceGroup _
        (Management.agrees_resourceGroups pages _) (fun _ => Agree.reading _) text
  | role =>
    simp only [Catalog.list, Role.list]
    split
    next => exact Agree.pure _
    next =>
      exact agrees_step_management companions .role _ (Management.agrees_roleDefinitions pages _)
        (fun _ => Agree.pure _) text
  | storageAccount =>
    simp only [Catalog.list, StorageAccount.list]
    split
    next => exact Agree.pure _
    next =>
      refine agrees_step_management companions .storageAccount _
        (Management.agrees_storageAccounts pages _) (fun accounts => ?_) text
      exact Agree.mapM fun account _ => (Agree.reading _).bind fun id =>
        (Agree.decoding _).bind fun path => Agree.reading _
  | container =>
    simp only [Catalog.list, Container.list]
    split
    next => exact Agree.pure _
    next =>
      exact (Agree.decoding _).bind fun account =>
        agrees_step_management companions .container _ (Management.agrees_containers pages _)
          (fun _ => Agree.reading _) text

/-! ## Entitlements -/

theorem agrees_entitlements (resource : Resource) :
    Agrees R (Catalog.entitlements c type resource) := by
  cases type with
  | enterpriseApplication =>
    refine (companions.record rfl resource.id.id).bind fun record => ?_
    refine (Agree.reading _).bind fun roles => ?_
    exact (Agree.filterMap fun role _ => Agree.reading _).bind fun found => Agree.pure _
  | user | group | managedIdentity | tenant | subscription | resourceGroup | role | storageAccount
  | container => exact Agree.pure _

end Catalog

end Companions

namespace Catalog

/-! ## Grants -/

section Fellows

variable (fellows : Fellows R c type)

include fellows

theorem agrees_translateMemberships (resource : ResourceId) (slug : String)
    (strict acceptGroups : Bool) (records : List Value) :
    Agrees R (Group.translateMemberships type resource slug strict acceptGroups records) :=
  Agree.filterMap fun _ _ => (Agree.reading _).bind fun _ => fellows.settle _

theorem agrees_assignmentGrant (application : type = .enterpriseApplication) (app : Resource)
    (assignment : Value) : Agrees R (Application.assignmentGrant c app assignment) := by
  subst application
  have granted (principal : ResourceId) (expansion : Option Expansion) : Agrees R (do
      return some (← Run.reading (Application.assignmentTo app assignment principal expansion)) :
        Act (Option Grant)) :=
    (Agree.reading _).bind fun _ => Agree.pure _
  unfold Application.assignmentGrant
  refine (Agree.reading _).bind fun id => ?_
  refine (Agree.reading _).bind fun kind => ?_
  refine (Agree.reading _).bind fun recordId => ?_
  simp only
  split
  next => exact granted _ _
  next =>
    split
    next => exact granted _ _
    next =>
      split
      next =>
        refine (fellows.principal id).bind fun principal => ?_
        refine (Connector.agrees_classify fellows.settle _ _ _).bind fun kind => ?_
        cases kind with
        | some kind => exact granted _ _
        | none => exact Agree.pure _
      next => exact fellows.settle _

theorem agrees_holderGrant (role : type = .role) (id : ResourceId) (assignment : RoleAssignment) :
    Agrees R (Role.holderGrant c id assignment) := by
  subst role
  exact (fellows.principal assignment.principalId).bind fun _ => fellows.settle _

theorem agrees_assignments (resource : ResourceId) (subscription scope : String) :
    (∀ token, Agrees R ((ResourceGroup.assignments c resource subscription scope).fetch token)) ∧
      ∀ records,
        Agrees R ((ResourceGroup.assignments c resource subscription scope).translate records) :=
  ⟨Management.agrees_roleAssignments fellows.management subscription scope,
    fun _ => Agree.mapM fun _ _ => Agree.decoding _⟩

theorem agrees_translateRoles (kind : StorageKind) (resource : ResourceId)
    (subscription scope : String) (roles : List String) :
    Agrees R (Storage.translateRoles c kind resource subscription scope roles) := by
  refine Agree.bind (Agree.mapM fun role _ => ?_) fun lists => Agree.pure _
  have assigned : Agrees R (c.index.assignments subscription role (some scope)) :=
    (fellows.index subscription (some scope)).bind fun entry => Agree.pure _
  have first : Agrees R (c.index.representative? subscription role (some scope)) :=
    assigned.bind fun assignments => Agree.pure _
  refine first.bind fun found => ?_
  cases found with
  | none => exact Agree.pure _
  | some assignment => exact (fellows.definition _).bind fun definition => Agree.pure _

/-! The signal that a call for grants is given need not be the connector's own, nor the same for
both sessions. -/

variable {context other : Context Session} (attuned : Enumeration.Attuned R context other)

include attuned

theorem agree_applicationGrants (application : type = .enterpriseApplication) (app : Resource)
    (text : String) :
    Agree R (Application.grants c context app text) (Application.grants c other app text) := by
  refine (Agree.reading _).bind fun size => ?_
  have loads : Agrees R (do
      Run.reading ((← Application.record c app.id.id).listField "appRoleAssignedTo")) :=
    (fellows.record application app.id.id).bind fun record => Agree.reading _
  have owners (records : List Value) := agrees_translateMemberships fellows app.id Slug.owners
    true false records
  subst application
  refine Enumeration.agrees_step attuned ?_ ?_ text
  · simp only [List.forall_mem_cons]
    exact ⟨Connector.agrees_fetch_directoryPhase fellows.directory _ _ _,
      Connector.agrees_fetch_markerPhase _ _ loads _, by simp⟩
  · simp only [List.forall_mem_cons]
    exact ⟨owners, fun assignments => Agree.filterMap fun assignment _ =>
      agrees_assignmentGrant fellows rfl app assignment, by simp⟩

theorem agree_groupGrants (group : type = .group) (resource : Resource) (text : String) :
    Agree R (Group.grants c context resource text) (Group.grants c other resource text) := by
  subst group
  refine Enumeration.agrees_step attuned ?_ ?_ text
  · simp only [List.forall_mem_cons]
    exact ⟨Connector.agrees_fetch_directoryPhase fellows.directory _ _ _,
      Connector.agrees_fetch_directoryPhase fellows.directory _ _ _, by simp⟩
  · simp only [List.forall_mem_cons]
    exact ⟨agrees_translateMemberships fellows _ _ _ _,
      agrees_translateMemberships fellows _ _ _ _, by simp⟩

theorem agree_resourceGroupGrants (resource : Resource) (text : String) :
    Agree R (ResourceGroup.grants c context resource text)
      (ResourceGroup.grants c other resource text) := by
  refine (Agree.decoding _).bind fun parts => ?_
  have access := agrees_assignments fellows resource.id parts.2
    (resourceGroupScope parts.1 parts.2)
  refine Enumeration.agrees_step attuned ?_ ?_ text
  · simp only [List.forall_mem_cons]
    exact ⟨access.1, by simp⟩
  · simp only [List.forall_mem_cons]
    exact ⟨access.2, by simp⟩

theorem agree_roleGrants (role : type = .role) (resource : Resource) (text : String) :
    Agree R (Role.grants c context resource text) (Role.grants c other resource text) := by
  subst role
  refine (Agree.decoding _).bind fun parts => (Agree.reading _).bind fun size => ?_
  have loads : Agrees R (c.index.assignments parts.2 parts.1 none) :=
    (fellows.index parts.2 none).bind fun entry => Agree.pure _
  refine Enumeration.agrees_step attuned ?_ ?_ text
  · simp only [List.forall_mem_cons]
    exact ⟨Connector.agrees_fetch_markerPhase _ _ loads _, by simp⟩
  · simp only [List.forall_mem_cons]
    exact ⟨fun assignments => Agree.filterMap fun assignment _ =>
      agrees_holderGrant fellows rfl resource.id assignment, by simp⟩

theorem agree_storageGrants (kind : StorageKind) (resource : Resource) (text : String) :
    Agree R (Storage.grants c kind context resource text)
      (Storage.grants c kind other resource text) := by
  refine (Agree.decoding _).bind fun parts => (Agree.reading _).bind fun size => ?_
  have access := agrees_assignments fellows resource.id parts.1 parts.2
  have loads : Agrees R (c.index.roles parts.1 (some parts.2)) :=
    (fellows.index parts.1 (some parts.2)).bind fun entry => Agree.pure _
  refine Enumeration.agrees_step attuned ?_ ?_ text
  · simp only [List.forall_mem_cons]
    exact ⟨access.1, Connector.agrees_fetch_markerPhase _ _ loads _, by simp⟩
  · simp only [List.forall_mem_cons]
    exact ⟨access.2, agrees_translateRoles fellows kind _ _ _, by simp⟩

theorem agree_grants (resource : Resource) (text : String) :
    Agree R (Catalog.grants c type context resource text)
      (Catalog.grants c type other resource text) := by
  cases type with
  | group => exact agree_groupGrants fellows attuned rfl resource text
  | enterpriseApplication => exact agree_applicationGrants fellows attuned rfl resource text
  | resourceGroup => exact agree_resourceGroupGrants fellows attuned resource text
  | role => exact agree_roleGrants fellows attuned rfl resource text
  | storageAccount => exact agree_storageGrants fellows attuned .account resource text
  | container => exact agree_storageGrants fellows attuned .container resource text
  | user | managedIdentity | tenant | subscription => exact Agree.pure _

end Fellows

theorem agrees_grants (companions : Companions R c type) (resource : Resource) (text : String) :
    Agrees R (Catalog.grants c type c.context resource text) :=
  agree_grants companions.fellows companions.attuned resource text

end Catalog

end AccessSync
