import AccessSync.Proofs.Catalog.Applications
import AccessSync.Proofs.Catalog.Cancelled
import AccessSync.Proofs.Catalog.Memory
import AccessSync.Proofs.Catalog.RoleRecords
import AccessSync.Proofs.Catalog.Storage
import AccessSync.Proofs.Enumeration.PageSize

/-!
# Grants in pages of any size

The grants of roles, applications and storage resources are read from lists that the connector
keeps, in pages of a size that the configuration sets.  Draining them makes the same calls in the
same order whatever that size is, even if the services change between the calls, and comes to the
same grants or the same failure.
-/

namespace AccessSync

open Enumeration (ListedLast Concludes Passes)

/-! ## Lists from what is kept -/

namespace Act

variable {ν ρ : Type} {part : Part Session (Cache String ν)} {cache family key : String}
  {producer : Act ν} {f : ν → Except Misuse (List ρ)} {records : List ρ} {s t : Session}

/-- A list that was loaded from a kept object can be read from the object again. -/
theorem exists_kept_of_load (lawful : ∀ c s, part.get (part.set c s) = c)
    (silent : ∀ record s, part.get (Journaled.record record s) = part.get s)
    (loads : (cached cache family part key producer >>= fun v => Run.reading (f v)) s =
      (.ok records, t)) :
    ∃ kept, (part.get t).get? key = some kept ∧ f kept = .ok records := by
  obtain ⟨kept, u, known, loads⟩ := Run.exists_of_bind loads
  cases found : f kept with
  | error misuse =>
    rw [found] at loads
    cases loads
  | ok list =>
    rw [found] at loads
    cases loads
    exact ⟨kept, get?_of_cached lawful silent known, found⟩

theorem load_of_kept {kept : ν} (known : (part.get s).get? key = some kept)
    (found : f kept = .ok records) :
    (cached cache family part key producer >>= fun v => Run.reading (f v)) s =
      (.ok records, s) := by
  rw [Run.bind_of_ok (cached_of_known known), found]
  rfl

end Act

namespace Catalog

variable {c : Connector} {s t : Session}

/-! ### Index entries -/

/-- The index keeps the entry of the scope. -/
def Filed (index : RoleIndex) (scope : String) (entry : AssignmentsByRole) (s : Session) : Prop :=
  (index.part.get s).get? scope = some entry

theorem lasting_filed (scope : String) (entry : AssignmentsByRole) :
    Lasting (Filed c.index scope entry) := by
  intro s t filed _ _ shared own _
  rw [Filed, ← c.index.part_get_congr shared own]
  exact filed

/-- An entry that is kept is not drained again. -/
theorem keeps_filed (scope : String) (entry : AssignmentsByRole) (subscription : String)
    (asked : Option String) :
    Keeps (Filed c.index scope entry) (c.index.assignmentsByRole subscription asked) := by
  by_cases same : RoleIndex.scopeOr subscription asked = scope
  · intro s filed
    have known : (c.index.part.get s).get? (RoleIndex.scopeOr subscription asked) = some entry :=
      same ▸ filed
    rw [RoleIndex.assignmentsByRole, Act.cached_of_known known]
    exact ⟨filed, fun _ _ => trivial⟩
  · refine keeps_assignmentsByRole (lasting_filed scope entry) c.index subscription asked ?_
    intro s u other _ _ filed
    rw [Filed, RoleIndex.part_get_set, Cache.get?_insert_of_ne _ _ (Ne.symm same)]
    exact filed

theorem fellows_filed {type : ResourceType} (scope : String) (entry : AssignmentsByRole) :
    Fellows (Along (Filed c.index scope entry)) c type := by
  have lasting := lasting_filed (c := c) scope entry
  refine lasting.fellows (keeps_filed scope entry) fun _ id => ?_
  refine Act.keeps_cached ?_ (fun _ u record _ _ filed => ?_) lasting.recorded
  · exact (keeps_query lasting _ _ _).bind fun _ _ => Ensures.pure trivial
  · have same : c.index.part.get (Session.servicePrincipalPart.set
        (u.objects.servicePrincipals.insert id record) u) = c.index.part.get u :=
      c.index.part_get_congr rfl rfl
    exact (congrArg (Cache.get? · scope) same).trans filed

/-! ### Records of applications -/

theorem fellows_kept (id : String) (record : Value) :
    Fellows (Along (Application.Kept id record)) c .enterpriseApplication := by
  have lasting : Lasting (Application.Kept id record) := fun s t kept _ _ _ _ same =>
    Application.readsRecords_kept id record s t same kept
  refine lasting.fellows (fun subscription scope => ?_) fun _ other => ?_
  · refine keeps_assignmentsByRole lasting c.index subscription scope fun _ u _ _ _ kept => ?_
    rw [Application.Kept, RoleIndex.part_set_servicePrincipals]
    exact kept
  · by_cases same : other = id
    · subst same
      intro s kept
      rw [Application.record_of_kept kept]
      exact ⟨kept, fun _ _ => trivial⟩
    · refine Act.keeps_cached ?_ (fun s u value _ _ kept => ?_) lasting.recorded
      · exact (keeps_query lasting _ _ _).bind fun _ _ => Ensures.pure trivial
      · exact (Cache.get?_insert_of_ne _ _ (Ne.symm same)).trans kept

/-! ## Grants as enumerations that end with a list -/

def Role.listing (c : Connector) (role : ResourceId) (name subscription : String) :
    ListedLast Grant where
  paging := c.paging .role
  before := []
  tag := Slug.assigned
  Record := RoleAssignment
  load := c.index.assignments subscription name none
  translate := Run.filterMap (holderGrant c role)

def Application.assigned (c : Connector) (id : String) : Act (List Value) := do
  Run.reading ((← record c id).listField "appRoleAssignedTo")

def Application.listing (c : Connector) (app : Resource) : ListedLast Grant where
  paging := c.paging .enterpriseApplication
  before := [c.directoryPhase Slug.owners
    (Directory.url ["servicePrincipals", app.id.id, Slug.owners] (ownerParameters c) true)
    (Group.translateMemberships .enterpriseApplication app.id Slug.owners true false)]
  tag := Slug.assignment
  Record := Value
  load := assigned c app.id.id
  translate := Run.filterMap (assignmentGrant c app)

/-- The roles that are assigned at a storage resource and the actions that they permit. -/
def Storage.listing (c : Connector) (kind : StorageKind) (resource : ResourceId)
    (subscription scope : String) : ListedLast Grant where
  paging := c.paging kind.type
  before := [ResourceGroup.assignments c resource subscription scope]
  tag := actionPhase
  Record := String
  load := c.index.roles subscription (some scope)
  translate := translateRoles c kind resource subscription scope

theorem index_loads {ρ : Type} (read : AssignmentsByRole → List ρ) (subscription : String)
    (scope : Option String) (s : Session) (records : List ρ) (t : Session)
    (loads : (do return read (← c.index.assignmentsByRole subscription scope)) s =
      (.ok records, t)) :
    ∃ entry, Filed c.index (RoleIndex.scopeOr subscription scope) entry t ∧
      ∀ u, Filed c.index (RoleIndex.scopeOr subscription scope) entry u →
        (do return read (← c.index.assignmentsByRole subscription scope)) u = (.ok records, u) := by
  obtain ⟨entry, kept, found⟩ := Act.exists_kept_of_load (f := fun entry => .ok (read entry))
    c.index.part_get_set (fun _ _ => c.index.part_get_congr rfl rfl) loads
  exact ⟨entry, kept, fun u known =>
    Act.load_of_kept (f := fun entry => .ok (read entry)) known found⟩

theorem divisible_roleListing (role : ResourceId) (name subscription : String) :
    (Role.listing c role name subscription).Divisible := by
  refine .of_kept _ (P := Filed c.index (RoleIndex.scopeOr subscription none))
    (show Slug.assigned ≠ "" by decide) (by simp [Role.listing])
    (index_loads (·.ofRole name) subscription none) ?_ Run.filterMap_append
  exact fun entry records => keeps_iff_agrees.mpr (Agree.filterMap fun assignment _ =>
    agrees_holderGrant (fellows_filed _ entry) rfl role assignment)

theorem divisible_applicationListing (app : Resource) :
    (Application.listing c app).Divisible := by
  refine .of_kept _ (P := Application.Kept app.id.id) (show Slug.assignment ≠ "" by decide) ?_
    (fun s records t loads => ?_) ?_ Run.filterMap_append
  · simp only [Application.listing, List.forall_mem_singleton]
    exact (show Slug.owners ≠ "" ∧ Slug.owners ≠ Slug.assignment by decide)
  · obtain ⟨record, kept, found⟩ := Act.exists_kept_of_load
      (f := fun record : Value => record.listField "appRoleAssignedTo") (fun _ _ => rfl)
      (fun _ _ => rfl) loads
    exact ⟨record, kept, fun u known => Act.load_of_kept known found⟩
  · exact fun record assignments => keeps_iff_agrees.mpr (Agree.filterMap fun assignment _ =>
      agrees_assignmentGrant (fellows_kept _ record) rfl app assignment)

theorem translateRoles_append (kind : StorageKind) (resource : ResourceId)
    (subscription scope : String) (roles more : List String) :
    Storage.translateRoles c kind resource subscription scope (roles ++ more) = do
      let items ← Storage.translateRoles c kind resource subscription scope roles
      let others ← Storage.translateRoles c kind resource subscription scope more
      return items ++ others := by
  simp only [Storage.translateRoles, List.mapM_append, bind_assoc, pure_bind, List.flatten_append]

theorem divisible_storageListing (kind : StorageKind) (resource : ResourceId)
    (subscription scope : String) :
    (Storage.listing c kind resource subscription scope).Divisible := by
  refine .of_kept _ (P := Filed c.index (RoleIndex.scopeOr subscription (some scope)))
    (show Storage.actionPhase ≠ "" by decide) ?_
    (index_loads AssignmentsByRole.roles subscription (some scope)) ?_
    (translateRoles_append kind resource subscription scope)
  · simp only [Storage.listing, List.forall_mem_singleton]
    exact (show ResourceGroup.assignmentPhase ≠ "" ∧
      ResourceGroup.assignmentPhase ≠ Storage.actionPhase by decide)
  · intro entry roles
    have fellows : Fellows
        (Along (Filed c.index (RoleIndex.scopeOr subscription (some scope)) entry)) c kind.type :=
      fellows_filed _ entry
    exact keeps_iff_agrees.mpr
      (agrees_translateRoles fellows kind resource subscription scope roles)

end Catalog

/-! ## Looks at the signal -/

/-- The sessions differ at most in how often the signal was looked at; it is given in both of them
or in neither. -/
def Alike (cancelled : Bool) (s t : Session) : Prop :=
  s = { t with looks := s.looks } ∧ t.cancelled = cancelled

/-- Looking at the signal finds it not given, and does nothing else. -/
def Ungiven (context : Context Session) (cancelled : Bool) : Prop :=
  ∀ s, s.cancelled = cancelled → ∃ looks, context.isCancelled s = (false, { s with looks })

variable {cancelled : Bool} {c : Connector} {s t : Session}

theorem Alike.refl (s : Session) : Alike s.cancelled s s := ⟨rfl, rfl⟩

/-- Nobody gives the signal. -/
theorem ungiven_context (quiet : ∀ looks history, c.world.cancels looks history = false) :
    Ungiven c.context false := by
  intro s current
  refine ⟨s.looks + 1, ?_⟩
  change (s.cancelled || c.world.cancels s.looks s.history, _) = _
  rw [quiet, Bool.or_false, current]

/-- What is done to both sessions leaves them alike. -/
theorem Alike.same {f : Session → Session} (alike : Alike cancelled s t)
    (looks : ∀ s looks, f { s with looks } = { f s with looks })
    (signal : ∀ s, (f s).cancelled = s.cancelled) : Alike cancelled (f s) (f t) := by
  have after : f s = { f t with looks := s.looks } :=
    (congrArg f alike.1).trans (looks t s.looks)
  refine ⟨?_, (signal t).trans alike.2⟩
  rw [after]

theorem Alike.part {τ : Type} (alike : Alike cancelled s t) (f : Session → τ)
    (looks : ∀ s looks, f { s with looks } = f s) : f s = f t :=
  (congrArg f alike.1).trans (looks t s.looks)

theorem silent_alike : Silent (Alike cancelled) := fun _ _ _ alike =>
  alike.same (fun _ _ => rfl) fun _ => rfl

theorem faithful_alike (world : World) : Directory.Faithful (Alike cancelled) world where
  call call s t alike := by
    refine ⟨alike.part (fun s => (Act.call world call s).1) fun _ _ => rfl, ?_⟩
    exact alike.same (f := fun s => { s with history := call :: s.history }) (fun _ _ => rfl)
      fun _ => rfl
  silent := silent_alike
  tokens _ _ alike := alike.part Session.tokens fun _ _ => rfl
  holdTokens _ _ _ alike := alike.same (fun _ _ => rfl) fun _ => rfl
  principals _ _ alike := alike.part (·.objects.principals) fun _ _ => rfl
  holdPrincipals _ _ _ alike := alike.same (fun _ _ => rfl) fun _ => rfl

theorem managed_alike (world : World) : Management.Connected (Alike cancelled) world where
  page _ _ := (faithful_alike world).call _
  client client := by
    refine Agree.read fun s t alike => ?_
    rw [alike.part Session.clients fun _ _ => rfl]
    split
    next =>
      refine ((faithful_alike world).call _).bind fun _ => Agree.modify fun s t after => ?_
      exact after.same (f := fun s => { s with clients := client :: s.clients }) (fun _ _ => rfl)
        fun _ => rfl
    next => exact Agree.pure _
  blobs _ := (faithful_alike world).call _
  silent := silent_alike

theorem fellows_alike (type : ResourceType) : Fellows (Alike cancelled) c type where
  directory := (faithful_alike c.world).connected c.directory
  management := managed_alike c.world
  principal := Directory.agrees_resolve (faithful_alike c.world) c.directory true
  index subscription scope := by
    refine Act.agrees_cached (fun s t alike => ?_) (fun entries s t alike => ?_) silent_alike ?_
    · exact alike.part c.index.part.get fun _ _ => c.index.part_get_congr rfl rfl
    · refine alike.same (f := c.index.part.set entries) ?_ (c.index.part_set_cancelled entries)
      unfold RoleIndex.part
      split
      next => exact fun _ _ => rfl
      next => exact fun _ _ => rfl
    · have managed : Management.Connected (Alike cancelled) c.index.world := managed_alike _
      exact RoleIndex.agree_build managed (managed.client _) _
  definition path := by
    refine Act.agrees_cached
      (fun s t alike => alike.part (·.objects.roleDefinitions) fun _ _ => rfl)
      (fun _ _ _ alike => alike.same (fun _ _ => rfl) fun _ => rfl) silent_alike ?_
    exact Management.agrees_roleDefinition (managed_alike c.world)
      ((faithful_alike c.world).call _)
  settle := Connector.agrees_settle silent_alike
    (fun _ _ alike => alike.part (·.tallies type) fun _ _ => rfl) fun _ _ _ alike =>
      alike.same (fun _ _ => rfl) fun _ => rfl
  record _ id := by
    refine Act.agrees_cached
      (fun s t alike => alike.part (·.objects.servicePrincipals) fun _ _ => rfl)
      (fun _ _ _ alike => alike.same (fun _ _ => rfl) fun _ => rfl) silent_alike ?_
    refine (Directory.agrees_query ((faithful_alike c.world).connected c.directory) _ _ _).bind ?_
    exact fun body => Agree.pure _

theorem attuned_alike {context : Context Session} (ungiven : Ungiven context cancelled) :
    Enumeration.Attuned (Alike cancelled) context Context.never where
  look s t alike := by
    obtain ⟨looks, asked⟩ :=
      ungiven s ((alike.part Session.cancelled fun _ _ => rfl).trans alike.2)
    rw [asked]
    exact ⟨rfl, congrArg (fun s => { s with looks }) alike.1, alike.2⟩
  record := silent_alike

/-! ## Sizes of pages -/

/-- The connector with another page size. -/
def Connector.paged (c : Connector) (size : Nat) : Connector := { c with pageSize := .ok size }

theorem decoding_bind {α β : Type} (a : α) (next : α → Act β) :
    Run.decoding (.ok a) >>= next = next a := rfl

theorem refusing_bind {α β : Type} (fault : RecordFault) (next : α → Act β) :
    Run.decoding (.error fault) >>= next = Run.fail (.record fault) := rfl

theorem sized_bind {α : Type} (c : Connector) (size : Nat) (next : Int → Act α) :
    Run.reading (c.paged size).pageSize >>= next = next size := rfl

namespace Catalog

/-- The number of records that the grants of a resource are paged from; not all kinds of resources
have such grants. -/
def pagedLength (c : Connector) (type : ResourceType) (resource : Resource) : Act Nat :=
  match type with
  | .role => do
    let (name, subscription) ← Run.decoding (splitRoleResourceId resource.id.id)
    return (← c.index.assignments subscription name none).length
  | .enterpriseApplication => return (← Application.assigned c resource.id.id).length
  | .storageAccount => ofStorage .account
  | .container => ofStorage .container
  | _ => return 0
where
  /-- The number of roles that are assigned at a storage resource. -/
  ofStorage (kind : StorageKind) : Act Nat := do
    let (subscription, scope) ← Run.decoding (kind.scope resource.id.id)
    return (← c.index.roles subscription (some scope)).length

/-- Without a signal, draining grants loads no list that is too long to be numbered. -/
def Short (c : Connector) (type : ResourceType) (resource : Resource) (s : Session) : Prop :=
  ∀ reached u, Passes (grants c type Context.never resource) "" s reached u →
    ∀ n v, pagedLength c type resource u = (.ok n, v) → n ≤ 10 ^ maxWrittenDigits

section Sizes

variable {resource : Resource} {size other : Nat} {outcome : Except Stop (List Grant)}

/-- Grants that are an enumeration which ends with a list come to the same in pages of all sizes. -/
theorem concludes_of_listed {type : ResourceType} {e : ListedLast Grant} (divisible : e.Divisible)
    (listed : ∀ size, grants (c.paged size) type Context.never resource = e.operation size)
    (counted : ∀ u records v, e.load u = (.ok records, v) →
      pagedLength (c.paged size) type resource u = (.ok records.length, v))
    (positive : 0 < size) (positive' : 0 < other) (short : Short (c.paged size) type resource s)
    (concludes : Concludes (grants (c.paged size) type Context.never resource) "" s outcome t) :
    Concludes (grants (c.paged other) type Context.never resource) "" s outcome t := by
  rw [Short, listed] at short
  rw [listed] at concludes ⊢
  refine divisible.concludes positive positive' (fun reached u passes records v loads => ?_)
    concludes
  exact short reached u passes records.length v (counted u records v loads)

theorem concludes_storageGrants (kind : StorageKind) {type : ResourceType}
    (ofKind : ∀ c context resource, grants c type context resource =
      Storage.grants c kind context resource)
    (counted : ∀ c, pagedLength c type resource = pagedLength.ofStorage c resource kind)
    (positive : 0 < size) (positive' : 0 < other) (short : Short (c.paged size) type resource s)
    (concludes : Concludes (grants (c.paged size) type Context.never resource) "" s outcome t) :
    Concludes (grants (c.paged other) type Context.never resource) "" s outcome t := by
  cases decoded : kind.scope resource.id.id with
  | error fault =>
    have refused (size : Nat) : grants (c.paged size) type Context.never resource =
        fun _ => Run.fail (.record fault) := by
      funext text
      rw [ofKind]
      simp only [Storage.grants, decoded, refusing_bind]
    rwa [refused] at concludes ⊢
  | ok parts =>
    refine concludes_of_listed (divisible_storageListing (c := c) kind resource.id parts.1 parts.2)
      (fun size => ?_) (fun u records v loads => ?_) positive positive' short concludes
    · funext text
      rw [ofKind]
      simp only [Storage.grants, decoded, decoding_bind, sized_bind]
      rfl
    · rw [counted, pagedLength.ofStorage, decoded]
      exact Run.bind_of_ok loads

theorem concludes_roleGrants (positive : 0 < size) (positive' : 0 < other)
    (short : Short (c.paged size) .role resource s)
    (concludes : Concludes (grants (c.paged size) .role Context.never resource) "" s outcome t) :
    Concludes (grants (c.paged other) .role Context.never resource) "" s outcome t := by
  cases decoded : splitRoleResourceId resource.id.id with
  | error fault =>
    have refused (size : Nat) : grants (c.paged size) .role Context.never resource =
        fun _ => Run.fail (.record fault) := by
      funext text
      simp only [grants, Role.grants, decoded, refusing_bind]
    rwa [refused] at concludes ⊢
  | ok parts =>
    refine concludes_of_listed (divisible_roleListing (c := c) resource.id parts.1 parts.2)
      (fun size => ?_) (fun u records v loads => ?_) positive positive' short concludes
    · funext text
      simp only [grants, Role.grants, decoded, decoding_bind, sized_bind]
      rfl
    · simp only [pagedLength, decoded]
      exact Run.bind_of_ok loads

/-- Without a signal, draining grants comes to the same in pages of all sizes. -/
theorem concludes_grants (type : ResourceType) (positive : 0 < size) (positive' : 0 < other)
    (short : Short (c.paged size) type resource s)
    (concludes : Concludes (grants (c.paged size) type Context.never resource) "" s outcome t) :
    Concludes (grants (c.paged other) type Context.never resource) "" s outcome t := by
  cases type with
  | enterpriseApplication =>
    refine concludes_of_listed (divisible_applicationListing (c := c) resource) (fun _ => rfl)
      (fun u records v loads => ?_) positive positive' short concludes
    simp only [pagedLength]
    exact Run.bind_of_ok loads
  | role => exact concludes_roleGrants positive positive' short concludes
  | storageAccount =>
    exact concludes_storageGrants .account (fun _ _ _ => rfl) (fun _ => rfl) positive positive'
      short concludes
  | container =>
    exact concludes_storageGrants .container (fun _ _ _ => rfl) (fun _ => rfl) positive positive'
      short concludes
  -- The other kinds take their pages as the services cut them.
  | user | group | managedIdentity | tenant | subscription | resourceGroup => exact concludes

end Sizes

/-! ### Under a signal that is given -/

/-- Under a signal that is given, an enumeration is cancelled before its first page. -/
theorem step_of_given {ι : Type} {context : Context Session} {looks : Nat}
    (given : context.isCancelled s = (true, { s with looks })) (type : ResourceType)
    {phases : List (Phase Session ι)} (tagged : ∀ phase ∈ phases, phase.tag ≠ "")
    (nonempty : phases ≠ []) : c.step type context phases "" s =
      (.error (.fault (.failure { cause := .cancelled })), { s with looks }) := by
  obtain ⟨first, rest, rfl⟩ := List.exists_cons_of_ne_nil nonempty
  have stops : context.check s =
      (.error (.fault (.failure { cause := .cancelled })), { s with looks }) := by
    rw [Context.check_apply, given]
    rfl
  rw [Connector.step, Enumeration.step_empty tagged nonempty,
    Enumeration.step_encode (Enumeration.tagged_start tagged) rfl, Enumeration.stepFrom]
  cases found : Enumeration.phase? (first :: rest) first.tag with
  | some phase => exact Run.bind_of_error stops
  | none =>
    have absent := List.find?_eq_none.mp found first (by simp)
    simp at absent

theorem storageGrants_of_given {context : Context Session} (given : Given context s)
    (kind : StorageKind) (resource : Resource) (size other : Nat) :
    Storage.grants (c.paged size) kind context resource "" s =
      Storage.grants (c.paged other) kind context resource "" s := by
  obtain ⟨looks, given⟩ := given
  have tagged : ResourceGroup.assignmentPhase ≠ "" ∧ Storage.actionPhase ≠ "" := by decide
  cases decoded : kind.scope resource.id.id with
  | error fault =>
    simp only [Storage.grants, decoded, refusing_bind]
  | ok parts =>
    have stops (size : Nat) : Storage.grants (c.paged size) kind context resource "" s =
        (.error (.fault (.failure { cause := .cancelled })), { s with looks }) := by
      simp only [Storage.grants, decoded, decoding_bind, sized_bind]
      refine step_of_given given kind.type ?_ (List.cons_ne_nil _ _)
      simp only [List.forall_mem_cons, List.not_mem_nil, false_imp_iff, implies_true, and_true]
      exact tagged
    exact (stops size).trans (stops other).symm

theorem grants_of_given {context : Context Session} (given : Given context s)
    (type : ResourceType) (resource : Resource) (size other : Nat) :
    grants (c.paged size) type context resource "" s =
      grants (c.paged other) type context resource "" s := by
  cases type with
  | storageAccount => exact storageGrants_of_given given .account resource size other
  | container => exact storageGrants_of_given given .container resource size other
  | enterpriseApplication =>
    obtain ⟨looks, given⟩ := given
    have tagged : Slug.owners ≠ "" ∧ Slug.assignment ≠ "" := by decide
    have stops (size : Nat) :
        grants (c.paged size) .enterpriseApplication context resource "" s =
          (.error (.fault (.failure { cause := .cancelled })), { s with looks }) := by
      simp only [grants, Application.grants, sized_bind]
      refine step_of_given given .enterpriseApplication ?_ (List.cons_ne_nil _ _)
      simp only [List.forall_mem_cons, List.not_mem_nil, false_imp_iff, implies_true, and_true]
      exact tagged
    exact (stops size).trans (stops other).symm
  | role =>
    obtain ⟨looks, given⟩ := given
    have tagged : Slug.assigned ≠ "" := by decide
    cases decoded : splitRoleResourceId resource.id.id with
    | error fault =>
      simp only [grants, Role.grants, decoded, refusing_bind]
    | ok parts =>
      have stops (size : Nat) : grants (c.paged size) .role context resource "" s =
          (.error (.fault (.failure { cause := .cancelled })), { s with looks }) := by
        simp only [grants, Role.grants, decoded, decoding_bind, sized_bind]
        refine step_of_given given .role ?_ (List.cons_ne_nil _ _)
        exact List.forall_mem_singleton.mpr tagged
      exact (stops size).trans (stops other).symm
  -- The other kinds take their pages as the services cut them.
  | user | managedIdentity | tenant | subscription => rfl
  | group =>
    have unpaged : Group.grants (c.paged size) = Group.grants (c.paged other) := rfl
    simp only [grants, unpaged]
  | resourceGroup =>
    have unpaged : ResourceGroup.grants (c.paged size) = ResourceGroup.grants (c.paged other) := rfl
    simp only [grants, unpaged]

/-- A call that does nothing is all that there is to drain. -/
theorem concludes_of_idles {ι : Type} {operation : String → Act (List ι × String)}
    (idles : Idles c s (operation "")) :
    ∃ outcome t, Concludes operation "" s outcome t ∧
      ∀ {operation' : String → Act (List ι × String)}, operation' "" s = operation "" s →
        Concludes operation' "" s outcome t := by
  obtain ⟨outcome, looks, ends, idle⟩ := idles
  cases idle with
  | drained => exact ⟨_, _, .last ends, fun same => .last (same.trans ends)⟩
  | cancelled | badCursor | badIdentifier | badPageSize =>
    exact ⟨_, _, .stops ends, fun same => .stops (same.trans ends)⟩

/-! ### All sizes -/

/-- From the session on, the signal is given in all states that differ in its looks only, or in
none: it is not given in between. -/
def Steady (context : Context Session) (s : Session) : Prop :=
  Given context s ∨ Ungiven context s.cancelled

/-- Draining the grants of a resource comes to the same outcome whatever the size of pages, as long
as the signal is not given in between; so far as it is drained at all, the sessions are left alike:
the same calls were made in the same order, and the same records were dropped. -/
theorem drain_grants_paged (c : Connector) (type : ResourceType) (resource : Resource)
    {size other : Nat} (positive : 0 < size) (positive' : 0 < other) {context : Context Session}
    {s t : Session} (steady : Steady context s)
    (short : Short (c.paged size) type resource s) {limit : Nat}
    {outcome : Except Stop (List Grant)}
    (drained : Enumeration.drain limit (grants (c.paged size) type context resource) s =
      (outcome, t)) (finished : outcome ≠ .error .unfinished) :
    ∃ enough, ∀ limit', enough ≤ limit' → ∃ looks,
      Enumeration.drain limit' (grants (c.paged other) type context resource) s =
        (outcome, { t with looks }) := by
  obtain given | ungiven := steady
  · obtain ⟨found, u, concludes, others⟩ :=
      concludes_of_idles (idles_grants given type resource "")
    obtain ⟨rfl, rfl⟩ : found = outcome ∧ u = t :=
      concludes.unique (Enumeration.concludes_of_drainFrom drained finished)
    obtain ⟨enough, drains⟩ :=
      (others (grants_of_given given type resource other size)).drainFrom
    exact ⟨enough, fun limit' within => ⟨u.looks, drains limit' within⟩⟩
  -- The signal is never given, so the drains are what they would be without one.
  have unsigned (size limit : Nat) :=
    Enumeration.agree_drain (agree_grants (c := c.paged size) (fellows_alike type)
      (attuned_alike ungiven) resource) limit s s (Alike.refl s)
  obtain ⟨same, alike⟩ := unsigned size limit
  rw [drained] at same alike
  match unpaged : Enumeration.drain limit (grants (c.paged size) type Context.never resource) s with
  | (found, u) =>
    rw [unpaged] at same alike
    obtain rfl : outcome = found := same
    have concludes := Enumeration.concludes_of_drainFrom unpaged finished
    obtain ⟨enough, drains⟩ :=
      (concludes_grants type positive positive' short concludes).drainFrom
    refine ⟨enough, fun limit' within => ?_⟩
    obtain ⟨same', alike'⟩ := unsigned other limit'
    have comes : Enumeration.drain limit' (grants (c.paged other) type Context.never resource) s =
        (outcome, u) := drains limit' within
    rw [comes] at same' alike'
    have looked (looks : Nat) : { u with looks } = { t with looks } :=
      (congrArg (fun s : Session => { s with looks }) alike.1).symm
    exact ⟨_, Prod.ext same' (alike'.1.trans (looked _))⟩

/-- A list is short if it is read off an entry that the index keeps already. -/
theorem short_of_filed {resource : Resource} {name subscription : String}
    {entry : AssignmentsByRole}
    (decoded : splitRoleResourceId resource.id.id = .ok (name, subscription))
    (filed : Filed c.index (RoleIndex.scopeOr subscription none) entry s)
    (few : (entry.ofRole name).length ≤ 10 ^ maxWrittenDigits) : Short c .role resource s := by
  intro reached u passes n v loads
  have attuned : Enumeration.Attuned
      (Along (Filed c.index (RoleIndex.scopeOr subscription none) entry))
      Context.never Context.never := {
    look := fun _ _ related => ⟨rfl, related⟩
    record := ((lasting_filed _ entry).faithful c.world).silent }
  have kept := passes.kept (fun text => keeps_iff_agrees.mpr
    (agree_grants (fellows_filed _ entry) attuned resource text)) filed
  have loaded : c.index.assignments subscription name none u = (.ok (entry.ofRole name), u) :=
    Act.load_of_kept (f := fun entry => .ok (AssignmentsByRole.ofRole entry name)) kept rfl
  have counted : pagedLength c .role resource u = (.ok (entry.ofRole name).length, u) := by
    simp only [pagedLength, decoded]
    exact Run.bind_of_ok loaded
  cases counted.symm.trans loads
  exact few

/-- A directory whose objects are users. -/
def usersWorld : World where
  answer _
    | .request _ => .ok ⟨200, [], "\x7b\"@odata.type\":\"#microsoft.graph.user\"\x7d"⟩
    | .clientToken .. => .error (.unexpected "")
    | .credentialToken _ => .ok "token"
    | .openClient _ => ()
    | .listPage .. => .ok .none
    | .operate _ => .ok (.mapping [])
    | .freshName => ""
    | .sleep _ => .ok ()
    | .clock => (0 : Int)
  cancels _ _ := false

def heldBy (user : String) : RoleAssignment where
  id := "assignment-" ++ user
  name := user
  scope := "/subscriptions/sub1"
  roleDefinitionId := roleDefinitionId "sub1" "reader"
  principalId := user
  principalType := .null

/-- The three assignments of a role. -/
def heldEntry : AssignmentsByRole := [("reader", [heldBy "u1", heldBy "u2", heldBy "u3"])]

/-- A session that keeps the three assignments. -/
def heldSession : Session :=
  { Session.new with assignments := Cache.empty.insert "/subscriptions/sub1" heldEntry }

def heldRole : Resource := ⟨⟨.role, "reader:sub1"⟩, "Reader", none, .null⟩

theorem drain_grants_paged_usersWorld :
    ∃ c outcome t, Connector.ofConfig usersWorld 5 (.mapping []) true = .ok c ∧
      Enumeration.drain 5 (grants (c.paged 1) .role c.context heldRole) heldSession =
        (outcome, t) ∧
      outcome.toOption.map (List.map fun grant => grant.principal.id) = some ["u1", "u2", "u3"] ∧
      ∃ enough, ∀ limit, enough ≤ limit → ∃ looks,
        Enumeration.drain limit (grants (c.paged 2) .role c.context heldRole) heldSession =
          (outcome, { t with looks }) := by
  have evaluated : ((Connector.ofConfig usersWorld 5 (.mapping []) true).toOption.map fun c =>
      (Enumeration.drain 5 (grants (c.paged 1) .role c.context heldRole)
        heldSession).1.toOption.map (List.map fun grant => grant.principal.id)) =
      some (some ["u1", "u2", "u3"]) := by
    decide +kernel
  obtain ⟨c, created, drained⟩ := Option.map_eq_some_iff.mp evaluated
  have configured := eq_ok_of_toOption created
  obtain ⟨sameWorld, -, index⟩ := Storage.ofConfig_ok configured
  have steady : Steady c.context heldSession :=
    .inr (ungiven_context (by rw [sameWorld]; exact fun _ _ => rfl))
  have filed : Filed c.index "/subscriptions/sub1" heldEntry heldSession := by
    rw [index]
    exact Cache.get?_insert _ _ _
  have decoded : splitRoleResourceId heldRole.id.id = .ok ("reader", "sub1") :=
    eq_ok_of_toOption (by decide +kernel)
  have few : (heldEntry.ofRole "reader").length ≤ 10 ^ maxWrittenDigits :=
    Nat.le_trans (by decide : 3 ≤ 10 ^ 1) (Nat.pow_le_pow_right (by decide) (by decide))
  match run : Enumeration.drain 5 (grants (c.paged 1) .role c.context heldRole) heldSession with
  | (outcome, t) =>
    rw [run] at drained
    refine ⟨c, outcome, t, configured, run, drained, ?_⟩
    have short : Short (c.paged 1) .role heldRole heldSession :=
      short_of_filed decoded (filed : Filed (c.paged 1).index _ _ _) few
    refine drain_grants_paged c .role heldRole (by decide) (by decide) steady short run ?_
    rintro rfl
    cases drained

end Catalog

end AccessSync
