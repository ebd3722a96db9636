import AccessSync.Proofs.Cache
import AccessSync.Proofs.Catalog.Agreement
import AccessSync.Proofs.Enumeration.Yield

/-!
# What a connector remembers

A property of what the index and the records of applications hold, and of the calls that were made,
is kept by all that makes calls and reports only.  What remains to be seen of such a property is
what becomes of it where entries are taken up or forgotten.
-/

namespace AccessSync

/-- The later session has made the calls of the earlier one, and maybe more. -/
def Since (earlier later : Session) : Prop := earlier.history <:+ later.history

/-- The property is one of what the index and the records of applications hold, and of calls that
were made. -/
def OfMemory (P : Session → Prop) : Prop :=
  ∀ s t, P s → Since s t → s.objects.roleAssignments = t.objects.roleAssignments →
    s.assignments = t.assignments → s.objects.servicePrincipals = t.objects.servicePrincipals → P t

/-- The property goes on to hold while calls are made and reports are written, and once it holds
under a signal that is given, it holds under the signal. -/
def Lasting (P : Session → Prop) : Prop :=
  ∀ s t, P s → Since s t → (s.cancelled = true → t.cancelled = true) →
    s.objects.roleAssignments = t.objects.roleAssignments → s.assignments = t.assignments →
    s.objects.servicePrincipals = t.objects.servicePrincipals → P t

variable {P : Session → Prop}

theorem OfMemory.lasting (memory : OfMemory P) : Lasting P :=
  fun s t holds later _ => memory s t holds later

section Memory

variable (lasting : Lasting P)

include lasting

/-! ## Calls and reports -/

theorem Lasting.recorded (record : LogRecord) (s : Session) (holds : P s) :
    P (Journaled.record record s) :=
  lasting s _ holds (List.suffix_refl _) id rfl rfl rfl

theorem Lasting.called (call : Call) (s : Session) (holds : P s) :
    P { s with history := call :: s.history } :=
  lasting s _ holds (List.suffix_cons _ _) id rfl rfl rfl

theorem Lasting.faithful (world : World) : Directory.Faithful (Along P) world :=
  .along lasting.called lasting.recorded
    (fun _ s holds => lasting s _ holds (List.suffix_refl _) id rfl rfl rfl)
    fun _ s holds => lasting s _ holds (List.suffix_refl _) id rfl rfl rfl

theorem Lasting.managed (world : World) : Management.Connected (Along P) world :=
  .along lasting.called lasting.recorded
    fun _ s holds => lasting s _ holds (List.suffix_refl _) id rfl rfl rfl

theorem keeps_withClient (world : World) (client : ManagementClient) :
    Keeps P (Management.withClient world client) :=
  keeps_iff_agrees.mpr ((lasting.managed world).client client)

theorem keeps_operate (world : World) (operation : Operation) :
    Keeps P (Act.call world (.operate operation)) :=
  keeps_iff_agrees.mpr ((lasting.faithful world).call _)

theorem keeps_report (severity : Severity) (component message : String) :
    Keeps P (Run.log severity component message : Act Unit) :=
  Ensures.log lasting.recorded severity component message

omit lasting in
theorem keeps_refuse {ρ : Type} (operation : String) (e : ServiceError) :
    Keeps P (Management.refuse operation e : Act ρ) :=
  keeps_iff_agrees.mpr (Management.agrees_refuse operation e)

theorem keeps_roleDefinition (world : World) (path : String) :
    Keeps P (Management.roleDefinition world path) := by
  refine (keeps_withClient lasting world _).bind fun _ _ => ?_
  refine (keeps_operate lasting world _).bind fun answer _ => ?_
  cases answer with
  | error e => exact keeps_refuse _ e
  | ok record => exact keeps_reading _

theorem keeps_createAssignment (world : World)
    (subscription scope roleDefinitionId principal : String) :
    Keeps P (Management.createAssignment world subscription scope roleDefinitionId principal) := by
  have named : Keeps P (Act.call world .freshName) :=
    keeps_iff_agrees.mpr ((lasting.faithful world).call _)
  refine named.bind fun name _ => (keeps_withClient lasting world _).bind fun _ _ => ?_
  refine (keeps_operate lasting world _).bind fun answer _ => ?_
  cases answer with
  | error e =>
    simp only
    split
    next => exact (keeps_report lasting _ _ _).bind fun _ _ => Ensures.pure trivial
    next => exact keeps_refuse _ e
  | ok record => exact (keeps_reading _).bind fun _ _ => Ensures.pure trivial

theorem keeps_deleteAssignment (world : World) (subscription scope name : String) :
    Keeps P (Management.deleteAssignment world subscription scope name) := by
  refine (keeps_withClient lasting world _).bind fun _ _ => ?_
  refine (keeps_operate lasting world _).bind fun answer _ => ?_
  cases answer with
  | error e => exact keeps_refuse _ e
  | ok _ => exact Ensures.pure trivial

/-! ## The index -/

theorem keeps_assignmentsByRole (index : RoleIndex) (subscription : String) (scope : Option String)
    (stores : ∀ s u entry, P s →
      index.build subscription (RoleIndex.scopeOr subscription scope) s = (.ok entry, u) → P u →
      P (index.part.set ((index.part.get u).insert (RoleIndex.scopeOr subscription scope) entry)
        u)) :
    Keeps P (index.assignmentsByRole subscription scope) := by
  refine Act.keeps_cached (keeps_iff_agrees.mpr ?_) stores lasting.recorded
  have managed := lasting.managed index.world
  exact RoleIndex.agree_build managed (managed.client _) _

namespace Catalog

/-! ## Changes of roles -/

theorem keeps_requireUser (type : ResourceType) (principal : ResourceId) (target : String) :
    Keeps P (Connector.requireUser type principal target) := by
  unfold Connector.requireUser
  split
  next => exact (keeps_report lasting _ _ _).bind fun _ _ => Ensures.throw _
  next => exact Ensures.pure trivial

variable {c : Connector}

theorem keeps_roleGrant {principal : Resource} {entitlement : Entitlement}
    (forgets : ∀ role subscription,
      splitRoleResourceId entitlement.resource.id = .ok (role, subscription) → ∀ s, P s →
      P (c.index.part.set ((c.index.part.get s).erase (subscriptionScope subscription)) s)) :
    Keeps P (Role.grant c principal entitlement) := by
  refine (keeps_requireUser lasting _ _ _).bind fun _ _ => ?_
  refine Ensures.bind (Ensures.decoding fun _ read => read) fun parts read => ?_
  refine (keeps_createAssignment lasting _ _ _ _ _).bind fun created _ => ?_
  refine (Ensures.modify (forgets parts.1 parts.2 read)).bind fun _ _ => ?_
  cases created with
  | some assignment => exact keeps_report lasting _ _ _
  | none => exact Ensures.pure trivial

theorem keeps_roleRevoke {grant : Grant}
    (forgets : ∀ role subscription,
      splitRoleResourceId grant.resource.id = .ok (role, subscription) → ∀ s, P s →
      P (c.index.part.set ((c.index.part.get s).erase (subscriptionScope subscription)) s))
    (stores : ∀ role subscription,
      splitRoleResourceId grant.resource.id = .ok (role, subscription) → ∀ s u entry, P s →
      c.index.build subscription (subscriptionScope subscription) s = (.ok entry, u) → P u →
      P (c.index.part.set ((c.index.part.get u).insert (subscriptionScope subscription) entry) u)) :
    Keeps P (Role.revoke c grant) := by
  refine (keeps_requireUser lasting _ _ _).bind fun _ _ => ?_
  refine Ensures.bind (Ensures.decoding fun _ read => read) fun parts read => ?_
  have entry : Keeps P (c.index.assignmentsByRole parts.2 none) :=
    keeps_assignmentsByRole lasting c.index parts.2 none (stores parts.1 parts.2 read)
  have assigned : Keeps P (c.index.assignments parts.2 parts.1 none) :=
    entry.bind fun _ _ => Ensures.pure trivial
  have found : Keeps P (c.index.find? parts.2 parts.1 grant.principal.id none
      (some (subscriptionScope parts.2))) :=
    assigned.bind fun _ _ => Ensures.pure trivial
  refine found.bind fun assignment _ => ?_
  cases assignment with
  | none => exact Ensures.throw _
  | some assignment =>
    refine (keeps_deleteAssignment lasting _ _ _ _).bind fun _ _ => ?_
    refine (Ensures.modify (forgets parts.1 parts.2 read)).bind fun _ _ => ?_
    exact keeps_report lasting _ _ _

end Catalog

/-! ## Everything that is read -/

variable {c : Connector}

theorem Lasting.connected : Directory.Connected (Along P) c.world c.directory :=
  (lasting.faithful c.world).connected c.directory

namespace Catalog

theorem keeps_query (method url : String) (body : Option Value) :
    Keeps P (c.query method url body) :=
  keeps_iff_agrees.mpr (Directory.agrees_query lasting.connected method url body)

theorem keeps_organizationIds : Keeps P c.organizationIds := by
  refine keeps_iff_agrees.mpr (Connector.agrees_organizationIds lasting.connected
    (fun _ _ related => congrArg Session.organizations related.1) fun ids s t related => ?_)
  obtain ⟨rfl, holds⟩ := related
  exact ⟨rfl, lasting s _ holds (List.suffix_refl _) id rfl rfl rfl⟩

theorem lasting_look (s : Session) (holds : P s) : P (c.context.isCancelled s).2 := by
  refine lasting s _ holds (List.suffix_refl _) (fun given => ?_) rfl rfl rfl
  change (s.cancelled || c.world.cancels s.looks s.history) = true
  rw [given, Bool.true_or]

/-- Listing applications keeps what taking up the records of a page keeps. -/
theorem keeps_applications {Q : Value → Prop}
    (fetches : ∀ (tag url : String) (translate : List Value → Act (List Resource)) token,
      Ensures P ((c.directoryPhase tag url translate).fetch token)
        fun page => ∀ record ∈ page.records, Q record)
    (takesUp : ∀ organizations parent record, Q record →
      Keeps P (Application.takeUp organizations parent record))
    (parent : Option ResourceId) (text : String) :
    Keeps P (Application.list c c.context parent text) := by
  refine (keeps_organizationIds lasting).bind fun organizations _ => ?_
  refine (Enumeration.ensures_step (Q := fun _ => True)
    ⟨lasting_look lasting, lasting.recorded⟩ ?_ text).weaken fun _ _ => trivial
  simp only [List.forall_mem_cons]
  refine ⟨⟨Q, fetches _ _ _, fun records found => ?_⟩, by simp⟩
  refine Ensures.filterMap fun record member => ?_
  exact (takesUp organizations parent record (found record member)).weaken fun _ _ => by simp

end Catalog

open Catalog in
/-- All that grants are made of keeps the property, if drained entries and fetched records do. -/
theorem Lasting.fellows {type : ResourceType}
    (index : ∀ subscription scope, Keeps P (c.index.assignmentsByRole subscription scope))
    (record : type = .enterpriseApplication → ∀ id, Keeps P (Application.record c id)) :
    Fellows (Along P) c type where
  directory := lasting.connected
  management := lasting.managed c.world
  principal id := Directory.agrees_resolve (lasting.faithful c.world) c.directory true id
  index subscription scope := keeps_iff_agrees.mp (index subscription scope)
  definition path := keeps_iff_agrees.mp (Act.keeps_cached
    (keeps_roleDefinition lasting c.world path)
    (fun _ u _ _ _ after => lasting u _ after (List.suffix_refl _) id rfl rfl rfl)
    lasting.recorded)
  settle := Connector.agrees_settle (lasting.faithful c.world).silent
    (fun _ _ related => congrArg (fun s => s.tallies type) related.1) fun tally s u related => by
      obtain ⟨rfl, holds⟩ := related
      exact ⟨rfl, lasting s _ holds (List.suffix_refl _) id rfl rfl rfl⟩
  record application id := keeps_iff_agrees.mp (record application id)

open Catalog in
/-- All that reads keeps the property, if drained entries and fetched records do. -/
theorem Lasting.companions
    (index : ∀ subscription scope, Keeps P (c.index.assignmentsByRole subscription scope))
    (applications : ∀ parent text, Keeps P (Application.list c c.context parent text))
    (record : ∀ id, Keeps P (Application.record c id)) (type : ResourceType) :
    Companions (Along P) c type :=
  { lasting.fellows index fun _ => record with
    attuned := {
      look := fun s _ related => by
        obtain ⟨rfl, holds⟩ := related
        exact ⟨rfl, rfl, lasting_look lasting s holds⟩
      record := (lasting.faithful c.world).silent }
    applications := fun _ parent text => keeps_iff_agrees.mp (applications parent text) }

end Memory

end AccessSync
