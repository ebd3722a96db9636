import AccessSync.Proofs.Catalog.Agreement
import AccessSync.Proofs.Catalog.Memory
import AccessSync.Proofs.Catalog.RoleRecords
import AccessSync.Proofs.Enumeration.Yield

/-!
# What a connector has learnt

What is kept was learnt at some time: the entry of a scope when it was drained, the record of an
application when it was fetched, by itself or with a page.  `Learnt` says of some scopes and some
applications that it was since a certain session; everything that a connector can be asked to do
keeps it.
-/

namespace AccessSync.Catalog

variable {c : Connector} {t : Session} {scopes ids : String → Prop}

/-! ## What was learnt since -/

/-- The index entry of the scope was drained since. -/
def Drained (c : Connector) (t : Session) (scope : String) (entry : AssignmentsByRole) : Prop :=
  ∃ s subscription u, Since t s ∧ c.index.build subscription scope s = (.ok entry, u)

/-- The record was on a page of a collection that was fetched since. -/
def Listed (c : Connector) (t : Session) (record : Value) : Prop :=
  ∃ s url page records u, Since t s ∧
    Directory.fetchPage c.world c.directory url s = (.ok page, u) ∧
    page.records.elements = .ok records ∧ record ∈ records

/-- The record of the service principal was fetched since, by itself or with a page. -/
def Fetched (c : Connector) (t : Session) (id : String) (record : Value) : Prop :=
  Listed c t record ∨ ∃ s body u, Since t s ∧
    c.query "GET" (Application.recordUrl id) none s = (.ok body, u) ∧
    record = Directory.recordOf body

/-- What the session keeps of the scopes and of the identifiers was learnt since. -/
structure Learnt (c : Connector) (t : Session) (scopes ids : String → Prop) (s : Session) :
    Prop where
  since : Since t s
  drained : ∀ scope entry, scopes scope → (c.index.part.get s).get? scope = some entry →
    Drained c t scope entry
  fetched : ∀ id record, ids id → s.objects.servicePrincipals.get? id = some record →
    Fetched c t id record

theorem ofMemory_learnt : OfMemory (Learnt c t scopes ids) := by
  intro s u learnt later shared own records
  refine ⟨learnt.since.trans later, ?_, ?_⟩
  · rw [← c.index.part_get_congr shared own]
    exact learnt.drained
  · rw [← records]
    exact learnt.fetched

theorem lasting_learnt : Lasting (Learnt c t scopes ids) := ofMemory_learnt.lasting

section Learnt

variable {s u : Session}

theorem learnt_drained (before : Learnt c t scopes ids s) {subscription scope : String}
    {entry : AssignmentsByRole} (built : c.index.build subscription scope s = (.ok entry, u))
    (learnt : Learnt c t scopes ids u) :
    Learnt c t scopes ids (c.index.part.set ((c.index.part.get u).insert scope entry) u) := by
  refine ⟨?since, fun other kept watched stored => ?drained,
    fun id record watched stored => ?fetched⟩
  case since =>
    rw [Since, RoleIndex.part_set_history]
    exact learnt.since
  case drained =>
    rw [RoleIndex.part_get_set] at stored
    -- The new entry is the one drained just now; the others were there before.
    have others (other : String) (kept : AssignmentsByRole)
        (stored : (c.index.part.get u).get? other = some kept) (watched : scopes other) :
        Drained c t other kept := learnt.drained other kept watched stored
    have new : scopes scope → Drained c t scope entry :=
      fun _ => ⟨s, subscription, u, before.since, built⟩
    exact Cache.forall_insert others new other kept stored watched
  case fetched =>
    refine learnt.fetched id record watched ?_
    rwa [RoleIndex.part_set_servicePrincipals] at stored

theorem learnt_fetched (learnt : Learnt c t scopes ids u) {id : String} {record : Value}
    (fetched : Fetched c t id record) :
    Learnt c t scopes ids
      (Session.servicePrincipalPart.set
        ((Session.servicePrincipalPart.get u).insert id record) u) := by
  refine ⟨learnt.since, ?_, fun other kept watched stored => ?_⟩
  · have same : c.index.part.get (Session.servicePrincipalPart.set
        ((Session.servicePrincipalPart.get u).insert id record) u) = c.index.part.get u :=
      c.index.part_get_congr rfl rfl
    rw [same]
    exact learnt.drained
  · have others (other : String) (kept : Value)
        (stored : u.objects.servicePrincipals.get? other = some kept) (watched : ids other) :
        Fetched c t other kept := learnt.fetched other kept watched stored
    exact Cache.forall_insert others (fun _ => fetched) other kept stored watched

theorem learnt_without_entry (learnt : Learnt c t scopes ids s) (scope : String) :
    Learnt c t scopes ids (c.index.part.set ((c.index.part.get s).erase scope) s) := by
  refine ⟨?since, fun other kept watched stored => ?drained, ?fetched⟩
  case since =>
    rw [Since, RoleIndex.part_set_history]
    exact learnt.since
  case drained =>
    rw [RoleIndex.part_get_set] at stored
    have all (other : String) (kept : AssignmentsByRole)
        (stored : (c.index.part.get s).get? other = some kept) (watched : scopes other) :
        Drained c t other kept := learnt.drained other kept watched stored
    exact Cache.forall_erase all other kept stored watched
  case fetched =>
    rw [RoleIndex.part_set_servicePrincipals]
    exact learnt.fetched

theorem learnt_without_record (learnt : Learnt c t scopes ids s) (id : String) :
    Learnt c t scopes ids (Session.servicePrincipalPart.set
      ((Session.servicePrincipalPart.get s).erase id) s) := by
  have same : c.index.part.get (Session.servicePrincipalPart.set
      ((Session.servicePrincipalPart.get s).erase id) s) = c.index.part.get s :=
    c.index.part_get_congr rfl rfl
  refine ⟨learnt.since, same ▸ learnt.drained, fun other kept watched stored => ?_⟩
  have all (other : String) (kept : Value)
      (stored : s.objects.servicePrincipals.get? other = some kept) (watched : ids other) :
      Fetched c t other kept := learnt.fetched other kept watched stored
  exact Cache.forall_erase all other kept stored watched

end Learnt

/-! ## What keeps it -/

theorem keeps_learnt_index (subscription : String) (scope : Option String) :
    Keeps (Learnt c t scopes ids) (c.index.assignmentsByRole subscription scope) :=
  keeps_assignmentsByRole lasting_learnt c.index subscription scope
    fun _ _ _ before built after => learnt_drained before built after

theorem keeps_learnt_record (id : String) :
    Keeps (Learnt c t scopes ids) (Application.record c id) := by
  refine Act.keeps_cached ?_ (fun s u record before fetched after => ?_) lasting_learnt.recorded
  · exact (keeps_query lasting_learnt _ _ _).bind fun _ _ => Ensures.pure trivial
  · obtain ⟨body, v, answered, returns⟩ := Run.exists_of_bind fetched
    cases returns
    exact learnt_fetched after (.inr ⟨s, body, u, before.since, answered, rfl⟩)

/-- The records of a page are taken up in the step that fetched the page. -/
theorem ensures_learnt_fetch {ι : Type} (tag url : String)
    (translate : List Value → Act (List ι)) (token : Option String) :
    Ensures (Learnt c t scopes ids) ((c.directoryPhase tag url translate).fetch token)
      fun page => ∀ record ∈ page.records, Listed c t record := by
  intro s learnt
  have kept : Keeps (Learnt c t scopes ids)
      ((c.directoryPhase tag url translate).fetch token) :=
    (keeps_iff_agrees.mpr (Directory.agrees_fetchPage lasting_learnt.connected _)).bind
      fun _ _ => keeps_reading _
  refine ⟨(kept s learnt).1, fun page returns record member => ?_⟩
  -- A record of the page is one of the collection page that was fetched for it.
  have ended : (c.directoryPhase tag url translate).fetch token s = (.ok page, _) :=
    Prod.ext returns rfl
  obtain ⟨fetched, u, answered, read⟩ := Run.exists_of_bind ended
  cases collected : Connector.collectionPage fetched with
  | error misuse =>
    simp only [collected] at read
    cases read
  | ok found =>
    simp only [collected] at read
    cases read
    obtain ⟨records, elements, same⟩ := exists_of_bind_eq_ok collected
    cases same
    exact ⟨s, _, fetched, records, _, learnt.since, answered, elements, member⟩

theorem keeps_learnt_takeUp (organizations : List String) (parent : Option ResourceId)
    {record : Value} (listed : Listed c t record) :
    Keeps (Learnt c t scopes ids) (Application.takeUp organizations parent record) := by
  refine (keeps_reading _).bind fun owned _ => ?_
  split
  next =>
    refine (keeps_reading _).bind fun id _ => ?_
    refine (Ensures.modify fun s learnt => learnt_fetched learnt (.inl listed)).bind fun _ _ => ?_
    exact (keeps_reading _).bind fun _ _ => Ensures.pure trivial
  next => exact Ensures.pure trivial

theorem companions_learnt (type : ResourceType) :
    Companions (Along (Learnt c t scopes ids)) c type :=
  lasting_learnt.companions keeps_learnt_index
    (keeps_applications lasting_learnt ensures_learnt_fetch
      fun organizations parent _ listed => keeps_learnt_takeUp organizations parent listed)
    keeps_learnt_record type

/-! ## Changes of access -/

theorem keeps_requireSlug {P : Session → Prop} (slug : String) :
    Keeps P (Group.requireSlug slug) := by
  unfold Group.requireSlug
  split
  next => exact Ensures.pure trivial
  next => exact Ensures.throw _

/-- A change that is asked for, and may count as made where it is refused. -/
theorem keeps_learnt_change (method url : String) (body : Option Value) (made : Failure → Bool) :
    Keeps (Learnt c t scopes ids) (Run.onFailure (do
        let _ ← c.query method url body
        return false) fun failure => if made failure then return true else Run.raise failure) := by
  refine Ensures.onFailure ?_ fun failure => ?_
  · exact (keeps_query lasting_learnt _ _ _).bind fun _ _ => Ensures.pure trivial
  · split
    next => exact Ensures.pure trivial
    next => exact Ensures.throw _

theorem keeps_learnt_groupGrant (principal : Resource) (entitlement : Entitlement) :
    Keeps (Learnt c t scopes ids) (Group.grant c principal entitlement) := by
  refine (keeps_requireUser lasting_learnt _ _ _).bind fun _ _ => ?_
  refine (keeps_requireSlug _).bind fun _ _ => ?_
  exact (keeps_learnt_change _ _ _ _).bind fun _ _ => keeps_report lasting_learnt _ _ _

theorem keeps_learnt_groupRevoke (grant : Grant) :
    Keeps (Learnt c t scopes ids) (Group.revoke c grant) := by
  refine (keeps_requireUser lasting_learnt _ _ _).bind fun _ _ => ?_
  refine (keeps_requireSlug _).bind fun _ _ => ?_
  exact (keeps_learnt_change _ _ _ _).bind fun _ _ => keeps_report lasting_learnt _ _ _

/-- The end of every change of an application. -/
theorem keeps_learnt_forget (id message : String) : Keeps (Learnt c t scopes ids) (do
    Application.forget id
    Run.log .info ResourceType.enterpriseApplication.component message) :=
  (Ensures.modify fun _ learnt => learnt_without_record learnt id).bind
    fun _ _ => keeps_report lasting_learnt _ _ _

theorem keeps_learnt_applicationGrant (principal : Resource) (entitlement : Entitlement) :
    Keeps (Learnt c t scopes ids) (Application.grant c principal entitlement) := by
  refine (keeps_requireUser lasting_learnt _ _ _).bind fun _ _ => ?_
  simp only
  split
  next => exact (keeps_query lasting_learnt _ _ _).bind fun _ _ => keeps_learnt_forget _ _
  next =>
    split
    next =>
      exact Ensures.bind (Q := fun _ => True) (Ensures.throw _) fun _ _ => keeps_learnt_forget _ _
    next => exact (keeps_query lasting_learnt _ _ _).bind fun _ _ => keeps_learnt_forget _ _

theorem keeps_learnt_applicationRevoke (grant : Grant) :
    Keeps (Learnt c t scopes ids) (Application.revoke c grant) := by
  unfold Application.revoke
  simp only
  split
  next => exact (keeps_query lasting_learnt _ _ _).bind fun _ _ => keeps_learnt_forget _ _
  next =>
    split
    next => exact (keeps_query lasting_learnt _ _ _).bind fun _ _ => keeps_learnt_forget _ _
    next =>
      refine (keeps_report lasting_learnt _ _ _).bind fun _ _ => ?_
      exact Ensures.bind (Q := fun _ => True) (Ensures.throw _) fun _ _ => keeps_learnt_forget _ _

/-! ## Everything that a connector can be asked to do -/

/-- What a connector can be asked to do. -/
inductive Demand where
  | list (type : ResourceType) (parent : Option ResourceId) (cursor : String)
  | entitlements (type : ResourceType) (resource : Resource)
  | grants (type : ResourceType) (resource : Resource) (cursor : String)
  | grant (type : ResourceType) (principal : Resource) (entitlement : Entitlement)
  | revoke (type : ResourceType) (grant : Grant)

def Demand.act (c : Connector) : Demand → Act Unit
  | .list type parent cursor => discard (Catalog.list c type c.context parent cursor)
  | .entitlements type resource => discard (Catalog.entitlements c type resource)
  | .grants type resource cursor => discard (Catalog.grants c type c.context resource cursor)
  | .grant type principal entitlement => Catalog.grant c type principal entitlement
  | .revoke type given => Catalog.revoke c type given

/-- The session is reached from another by meeting demands, whether they succeed or not.  A caller
may come with a cancellation signal of its own. -/
inductive Reaches (c : Connector) (s : Session) : Session → Prop where
  | refl : Reaches c s s
  | demand {t : Session} (reached : Reaches c s t) (demand : Demand) :
      Reaches c s (demand.act c t).2
  | renew {t : Session} (reached : Reaches c s t) (cancelled : Bool) :
      Reaches c s { t with cancelled }

theorem keeps_learnt_demand (demand : Demand) :
    Keeps (Learnt c t scopes ids) (demand.act c) := by
  -- Reading keeps what was learnt as all that agrees along it; changes are taken one by one.
  have unread {α : Type} {run : Act α} (keeps : Keeps (Learnt c t scopes ids) run) :
      Keeps (Learnt c t scopes ids) (discard run) :=
    keeps.bind fun _ _ => Ensures.pure trivial
  cases demand with
  | list type parent cursor =>
    exact unread (keeps_iff_agrees.mpr (agrees_list (companions_learnt type) parent cursor))
  | entitlements type resource =>
    exact unread (keeps_iff_agrees.mpr (agrees_entitlements (companions_learnt type) resource))
  | grants type resource cursor =>
    exact unread (keeps_iff_agrees.mpr (agrees_grants (companions_learnt type) resource cursor))
  | grant type principal entitlement =>
    cases type with
    | group => exact keeps_learnt_groupGrant principal entitlement
    | enterpriseApplication => exact keeps_learnt_applicationGrant principal entitlement
    | role =>
      exact keeps_roleGrant lasting_learnt fun _ _ _ _ learnt => learnt_without_entry learnt _
    | user | managedIdentity | tenant | subscription | resourceGroup | storageAccount | container =>
      exact Ensures.throw _
  | revoke type grant =>
    cases type with
    | group => exact keeps_learnt_groupRevoke grant
    | enterpriseApplication => exact keeps_learnt_applicationRevoke grant
    | role =>
      exact keeps_roleRevoke lasting_learnt (fun _ _ _ _ learnt => learnt_without_entry learnt _)
        fun _ _ _ _ _ _ before built after => learnt_drained before built after
    | user | managedIdentity | tenant | subscription | resourceGroup | storageAccount | container =>
      exact Ensures.throw _

theorem learnt_of_reaches {s u : Session} (learnt : Learnt c t scopes ids s)
    (reached : Reaches c s u) : Learnt c t scopes ids u := by
  -- On the demands that were met; whether they succeeded does not matter.
  induction reached with
  | refl => exact learnt
  | demand _ demand inductionHypothesis =>
    exact (keeps_learnt_demand demand _ inductionHypothesis).1
  | renew _ cancelled inductionHypothesis =>
    exact ofMemory_learnt _ _ inductionHypothesis (List.suffix_refl _) rfl rfl rfl

end AccessSync.Catalog
