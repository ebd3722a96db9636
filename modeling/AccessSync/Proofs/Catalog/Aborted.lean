import AccessSync.Proofs.Catalog.Tallies
import AccessSync.Proofs.Ends
import AccessSync.Proofs.Enumeration.PageSize
import AccessSync.Proofs.Enumeration.Yield
import Mathlib.Data.List.Induction

/-!
# Calls for grants that fail

A call for grants that fails may have counted drops by then: those of the records of its page that
were translated before the failure.  When the call is repeated with the same cursor, they are
counted again.  A failure anywhere else leaves the tallies as they were: in the identifier, in the
cursor, in the page that is fetched, or because of the signal.
-/

namespace AccessSync

open Enumeration

/-! ## Steps -/

/-- Looking at the signal counts nothing. -/
def Impartial (context : Context Session) : Prop :=
  ∀ s, (context.isCancelled s).2.tallies = s.tallies

/-- What a page comes to, by what its records come to. -/
def pageOutcome {ι : Type} (tag following : String) :
    Except Stop (List ι) → Except Stop (List ι × String)
  | .ok items => .ok (items, following)
  | .error stop => .error (stop.inPhase tag)

namespace Enumeration

variable {ι : Type} {paging : Paging} {context : Context Session} {phases : List (Phase Session ι)}
  {s t : Session} {outcome : Except Stop (List ι × String)}

/-- From the first session a page of the phase is read, between two looks at the signal, which finds
the records that are then translated from the last session on. -/
structure Opens (paging : Paging) (context : Context Session) (phase : Phase Session ι)
    (s : Session) (records : List phase.Record) (u : Session) : Prop where
  fetched : ∃ token page before after, context.check s = (.ok (), before) ∧
    fetchPage paging phase token before = (.ok page, after) ∧ page.records = records ∧
    context.check after = (.ok (), u)
  unread : u.tallies = s.tallies

theorem stable_hasTallies (impartial : Impartial context) (tallies : ResourceType → DropTally) :
    Stable (HasTallies tallies) context :=
  ⟨fun s holds => (impartial s).trans holds, fun _ _ holds => holds⟩

theorem tallies_check (impartial : Impartial context) (s : Session) :
    (context.check s).2.tallies = s.tallies :=
  (ensures_check (stable_hasTallies impartial s.tallies).check s rfl).1

/-- A page counts what its translation counts; there may be none. -/
theorem tallies_of_onePage (impartial : Impartial context) {phase : Phase Session ι}
    (fetch : ∀ tallies token, Keeps (HasTallies tallies) (phase.fetch token))
    {token : Option String} {before : Session} (looked : context.check s = (.ok (), before))
    {outcome : Except Stop (Page phase.Record × List ι)}
    (ends : onePage paging context phase token before = (outcome, t)) :
    (t.tallies = s.tallies ∧ ∃ stop, outcome = .error stop) ∨
      ∃ page u result, Opens paging context phase s page.records u ∧
        phase.translate page.records u = (result, t) ∧ outcome = result.map (page, ·) := by
  have here : before.tallies = s.tallies := by
    have look := tallies_check impartial s
    rwa [looked] at look
  have kept : Ensures (HasTallies s.tallies) (fetchPage paging phase token) _ :=
    ensures_fetchPage (stable_hasTallies impartial s.tallies) (F := fun _ => True) token
      ((fetch s.tallies token).weaken fun _ _ _ _ => trivial)
  -- Before the translation nothing is counted, whether the page is fetched or not.
  rcases fetched : fetchPage paging phase token before with ⟨stop | page, after⟩
  · rw [onePage, Run.bind_of_error fetched] at ends
    cases ends
    exact .inl ⟨kept.kept here fetched, stop, rfl⟩
  · have same : after.tallies = s.tallies := kept.kept here fetched
    have look := tallies_check impartial after
    rw [onePage, Run.bind_of_ok fetched] at ends
    rcases again : context.check after with ⟨stop | ⟨⟩, u⟩
    · rw [again] at look
      rw [Run.bind_of_error again] at ends
      cases ends
      exact .inl ⟨look.trans same, stop, rfl⟩
    · rw [again] at look
      rw [Run.bind_of_ok again] at ends
      have opens : Opens paging context phase s page.records u :=
        ⟨⟨token, page, before, after, looked, fetched, rfl, again⟩, look.trans same⟩
      rcases translated : phase.translate page.records u with ⟨stop | items, v⟩
      · rw [Run.bind_of_error translated] at ends
        cases ends
        exact .inr ⟨page, u, .error stop, opens, translated, rfl⟩
      · rw [Run.bind_of_ok translated] at ends
        cases ends
        exact .inr ⟨page, u, .ok items, opens, translated, rfl⟩

theorem tallies_reportProgress (paging : Paging) (phase : Phase Session ι)
    (page : Page phase.Record) (remaining : Cursor) (s : Session) :
    ∃ t, reportProgress paging phase page remaining s = (.ok (), t) ∧ t.tallies = s.tallies := by
  have logged (severity : Severity) (component message : String) :
      Ends (HasTallies s.tallies) (Run.log severity component message) (.ok ()) :=
    Ends.log (fun _ _ holds => holds) severity component message
  have ends : Ends (HasTallies s.tallies) (reportProgress paging phase page remaining)
      (.ok ()) := by
    unfold reportProgress
    split
    next =>
      split
      next => exact (logged _ _ _).bind (logged _ _ _)
      next => exact (Ends.pure _).bind (logged _ _ _)
    next => exact Ends.pure _
  exact ends.returns rfl

theorem stepFrom_of_phase {phase : Phase Session ι} {cursor : Cursor} {position : Position}
    (found : phase? phases position.tag = some phase) :
    stepFrom paging context phases cursor position = (do
      context.check
      let result ← Run.inPhase phase.tag (onePage paging context phase position.token)
      let remaining := advance cursor (continuation? paging phase result.1)
      reportProgress paging phase result.1 remaining
      return (result.2, remaining.encode)) := by
  simp only [stepFrom, found]
  rfl

/-- The step translates a page and counts what the translation counts. -/
def CountsAsPage (paging : Paging) (context : Context Session) (phases : List (Phase Session ι))
    (s : Session) (outcome : Except Stop (List ι × String)) (t : Session) : Prop :=
  ∃ phase ∈ phases, ∃ records u result v, Opens paging context phase s records u ∧
    phase.translate records u = (result, v) ∧ t.tallies = v.tallies ∧
    ∃ following, outcome = pageOutcome phase.tag following result

theorem tallies_of_stepFrom (impartial : Impartial context) {cursor : Cursor} {position : Position}
    (fetch : ∀ phase ∈ phases, ∀ tallies token, Keeps (HasTallies tallies) (phase.fetch token))
    (ends : stepFrom paging context phases cursor position s = (outcome, t)) :
    t.tallies = s.tallies ∨ CountsAsPage paging context phases s outcome t := by
  cases found : phase? phases position.tag with
  | none =>
    simp only [stepFrom, found] at ends
    cases ends
    exact .inl rfl
  | some phase =>
    have member : phase ∈ phases := List.mem_reverse.mp (List.mem_of_find?_eq_some found)
    rw [stepFrom_of_phase found] at ends
    rcases checked : context.check s with ⟨stop | ⟨⟩, before⟩
    · have look := tallies_check impartial s
      rw [checked] at look
      rw [Run.bind_of_error checked] at ends
      cases ends
      exact .inl look
    · rw [Run.bind_of_ok checked] at ends
      rcases block : onePage paging context phase position.token before with
        ⟨stop | ⟨page, items⟩, v⟩
      · cases (Run.bind_of_error (Run.inPhase_of_error phase.tag block)).symm.trans ends
        obtain ⟨same, -⟩ | ⟨page, u, result, opens, translated, came⟩ :=
          tallies_of_onePage impartial (fetch phase member) checked block
        · exact .inl same
        · cases result with
          | ok items => cases came
          | error other =>
            -- The step fails, but nothing takes back what was counted before.
            cases came
            exact .inr ⟨phase, member, _, u, _, _, opens, translated, rfl, "", rfl⟩
      · rw [Run.bind_of_ok (Run.inPhase_of_ok phase.tag block)] at ends
        obtain ⟨-, stop, ⟨⟩⟩ | ⟨page, u, result, opens, translated, came⟩ :=
          tallies_of_onePage impartial (fetch phase member) checked block
        cases result with
        | error other => cases came
        | ok items =>
          cases came
          obtain ⟨w, reported, same⟩ := tallies_reportProgress paging phase page
            (advance cursor (continuation? paging phase page)) v
          cases (Run.bind_of_ok reported).symm.trans ends
          exact .inr ⟨phase, member, _, u, _, v, opens, translated, same, _, rfl⟩

/-- A step counts what the translation of its page counts; there may be none. -/
theorem tallies_of_step (impartial : Impartial context) {text : String}
    (fetch : ∀ phase ∈ phases, ∀ tallies token, Keeps (HasTallies tallies) (phase.fetch token))
    (ends : step paging context phases text s = (outcome, t)) :
    t.tallies = s.tallies ∨ CountsAsPage paging context phases s outcome t := by
  cases given : Cursor.decode text with
  | error fault =>
    simp only [step, given] at ends
    cases ends
    exact .inl rfl
  | ok cursor =>
    simp only [step, given] at ends
    generalize (if (cursor.isEmpty && text.isEmpty) = true then start phases else cursor) = current
      at ends
    cases active : current.active? with
    | none =>
      simp only [active] at ends
      cases ends
      exact .inl rfl
    | some position =>
      simp only [active] at ends
      exact tallies_of_stepFrom impartial fetch ends

end Enumeration

namespace Catalog

/-! ## Calls -/

/-- A call for a page of the grants of a resource. -/
structure GrantsCall where
  type : ResourceType
  context : Context Session
  impartial : Impartial context
  resource : Resource
  cursor : String

namespace GrantsCall

def act (c : Connector) (call : GrantsCall) : Act (List Grant × String) :=
  grants c call.type call.context call.resource call.cursor

/-- The session after calls one after the other.  A call that fails is not the last one. -/
def actAll (c : Connector) (calls : List GrantsCall) (s : Session) : Session :=
  calls.foldl (fun s call => (call.act c s).2) s

/-- The phase is one of those that the call goes through. -/
def HasPhase (c : Connector) (call : GrantsCall) (phase : Phase Session Grant) : Prop :=
  ∃ phases, phase ∈ phases ∧ ∀ text, grants c call.type call.context call.resource text =
    c.step call.type call.context phases text

end GrantsCall

/-- The call has the outcome and leaves the last session, and the drops are those that it counts:
none if it leaves the tallies as they were, else those of the records of a page, up to the one at
which the translation stops. -/
inductive Counted (c : Connector) (call : GrantsCall) (s : Session) :
    Except Stop (List Grant × String) → List Drop → Session → Prop where
  | untouched {outcome : Except Stop (List Grant × String)} {t : Session}
      (same : t.tallies = s.tallies) : Counted c call s outcome [] t
  | page {phase : Phase Session Grant} {translate : phase.Record → Act (Option Grant)}
      {records : List phase.Record} {result : Except Stop (List Grant)} {drops : List Drop}
      {u v t : Session} {following : String} (goes : call.HasPhase c phase)
      (one : phase.translate = Run.filterMap translate)
      (opens : Opens (c.paging call.type) call.context phase s records u)
      (sifting : Sifting call.type translate records u result drops v)
      (same : t.tallies = v.tallies) :
      Counted c call s (pageOutcome phase.tag following result) drops t

theorem Counted.counts {c : Connector} {call : GrantsCall} {s t : Session}
    {outcome : Except Stop (List Grant × String)} {drops : List Drop}
    (counted : Counted c call s outcome drops t) : Counts call.type drops s t := by
  cases counted with
  | untouched same => exact .of_same same
  | page _ _ opens sifting same => exact (sifting.counts.after_same opens.unread).then_same same

/-- Fetching a page counts nothing, and translating it counts nothing or one drop for a record. -/
structure Sifts (type : ResourceType) (phase : Phase Session Grant) : Prop where
  fetch : ∀ tallies token, Keeps (HasTallies tallies) (phase.fetch token)
  translate : (∀ tallies records, Keeps (HasTallies tallies) (phase.translate records)) ∨
    ∃ translate, phase.translate = Run.filterMap translate ∧
      ∀ record, CountsOnce type (translate record)

/-- A call that is refused before there is anything to fetch counts nothing. -/
theorem exists_counted_of_throw {c : Connector} {call : GrantsCall} {s t : Session}
    {outcome : Except Stop (List Grant × String)} {stop : Stop} (throws : call.act c = throw stop)
    (ends : call.act c s = (outcome, t)) : ∃ drops, Counted c call s outcome drops t := by
  rw [throws] at ends
  cases ends
  exact ⟨[], .untouched rfl⟩

theorem exists_counted_of_step {c : Connector} {call : GrantsCall} {s t : Session}
    {outcome : Except Stop (List Grant × String)} (phases : List (Phase Session Grant))
    (steps : ∀ text, grants c call.type call.context call.resource text =
      c.step call.type call.context phases text)
    (sifts : ∀ phase ∈ phases, Sifts call.type phase) (ends : call.act c s = (outcome, t)) :
    ∃ drops, Counted c call s outcome drops t := by
  rw [GrantsCall.act, steps] at ends
  obtain same | ⟨phase, member, records, u, result, v, opens, translates, same, following, rfl⟩ :=
    tallies_of_step call.impartial (fun phase member => (sifts phase member).fetch) ends
  · exact ⟨[], .untouched same⟩
  · obtain silent | ⟨translate, one, each⟩ := (sifts phase member).translate
    · -- A translation that counts nothing, such as that of role assignments, need not be a filter.
      exact ⟨[], .untouched (same.trans ((silent _ _).kept opens.unread translates))⟩
    · rw [one] at translates
      obtain ⟨drops, sifting⟩ := Sifting.exists_of_countsOnce each translates
      exact ⟨drops, .page ⟨phases, member, steps⟩ one opens sifting same⟩

/-! ## The kinds of resources -/

section Kinds

variable {c : Connector} {type : ResourceType}

theorem sifts_directoryPhase (tag firstUrl : String) {f : Value → Act (Option Grant)}
    (each : ∀ record, CountsOnce type (f record)) :
    Sifts type (c.directoryPhase tag firstUrl (Run.filterMap f)) where
  fetch tallies token := keeps_iff_agrees.mpr (Connector.agrees_fetch_directoryPhase
    (connected_tallied c tallies) tag firstUrl (Run.filterMap f) token)
  translate := .inr ⟨f, rfl, each⟩

theorem keeps_fetch_markerPhase {ρ : Type} (tag : String) (size : Int) {load : Act (List ρ)}
    (loads : ∀ tallies, Keeps (HasTallies tallies) load) (translate : List ρ → Act (List Grant))
    (tallies : ResourceType → DropTally) (token : Option String) :
    Keeps (HasTallies tallies) ((Connector.markerPhase tag size load translate).fetch token) :=
  keeps_iff_agrees.mpr (Connector.agrees_fetch_markerPhase tag size
    (keeps_iff_agrees.mp (loads tallies)) translate token)

theorem sifts_markerPhase {ρ : Type} (tag : String) (size : Int) {load : Act (List ρ)}
    (loads : ∀ tallies, Keeps (HasTallies tallies) load) {f : ρ → Act (Option Grant)}
    (each : ∀ record, CountsOnce type (f record)) :
    Sifts type (Connector.markerPhase tag size load (Run.filterMap f)) where
  fetch := keeps_fetch_markerPhase tag size loads _
  translate := .inr ⟨f, rfl, each⟩

theorem sifts_assignments (resource : ResourceId) (subscription scope : String) :
    Sifts type (ResourceGroup.assignments c resource subscription scope) where
  fetch tallies token := keeps_iff_agrees.mpr
    (Management.agrees_roleAssignments (managed_tallied tallies c.world) subscription scope token)
  translate := .inl fun _ _ =>
    (Ensures.mapM (R := fun _ => True) fun _ _ => Ensures.decoding fun _ _ => trivial).weaken
      fun _ _ => trivial

theorem keeps_index_read {α : Type} (read : AssignmentsByRole → α) (subscription : String)
    (scope : Option String) (tallies : ResourceType → DropTally) :
    Keeps (HasTallies tallies) (do return read (← c.index.assignmentsByRole subscription scope)) :=
  (keeps_index_tallied c tallies subscription scope).bind fun _ _ => Ensures.pure trivial

theorem keeps_translateRoles (kind : StorageKind) (resource : ResourceId)
    (subscription scope : String) (tallies : ResourceType → DropTally) (roles : List String) :
    Keeps (HasTallies tallies)
      (Storage.translateRoles c kind resource subscription scope roles) := by
  refine (Ensures.mapM (R := fun _ => True) fun role _ => ?_).bind fun _ _ => Ensures.pure trivial
  have first : Keeps (HasTallies tallies)
      (c.index.representative? subscription role (some scope)) :=
    (keeps_index_read (·.ofRole role) subscription (some scope) tallies).bind fun _ _ =>
      Ensures.pure trivial
  refine first.bind fun found _ => ?_
  cases found with
  | none => exact Ensures.pure trivial
  | some assignment =>
    exact (keeps_definition_tallied c tallies _).bind fun _ _ => Ensures.pure trivial

variable {call : GrantsCall} {s t : Session} {outcome : Except Stop (List Grant × String)}

theorem exists_counted_storage (kind : StorageKind)
    (ofKind : ∀ text, grants c call.type call.context call.resource text =
      Storage.grants c kind call.context call.resource text)
    (same : kind.type = call.type) (ends : call.act c s = (outcome, t)) :
    ∃ drops, Counted c call s outcome drops t := by
  cases decoded : kind.scope call.resource.id.id with
  | error fault =>
    exact exists_counted_of_throw
      (by rw [GrantsCall.act, ofKind, Storage.grants, decoded]; rfl) ends
  | ok parts =>
    cases sized : c.pageSize with
    | error misuse =>
      exact exists_counted_of_throw
        (by rw [GrantsCall.act, ofKind, Storage.grants, decoded, sized]; rfl) ends
    | ok size =>
      obtain ⟨subscription, scope⟩ := parts
      refine exists_counted_of_step [
        ResourceGroup.assignments c call.resource.id subscription scope,
        Connector.markerPhase Storage.actionPhase size (c.index.roles subscription (some scope))
          (Storage.translateRoles c kind call.resource.id subscription scope)]
        (fun text => ?_) ?_ ends
      · rw [ofKind, Storage.grants, decoded, sized, ← same]
        rfl
      · simp only [List.forall_mem_cons]
        refine ⟨sifts_assignments _ _ _, ⟨?_, .inl ?_⟩, by simp⟩
        · exact keeps_fetch_markerPhase _ _
            (keeps_index_read AssignmentsByRole.roles subscription (some scope)) _
        · exact keeps_translateRoles kind call.resource.id subscription scope

theorem exists_counted_resourceGroup (group : call.type = .resourceGroup)
    (ends : call.act c s = (outcome, t)) : ∃ drops, Counted c call s outcome drops t := by
  have ofKind (text : String) : grants c call.type call.context call.resource text =
      ResourceGroup.grants c call.context call.resource text := by rw [group]; rfl
  cases decoded : splitResourceGroupId call.resource.id.id with
  | error fault =>
    exact exists_counted_of_throw
      (by rw [GrantsCall.act, ofKind, ResourceGroup.grants, decoded]; rfl) ends
  | ok parts =>
    obtain ⟨name, subscription⟩ := parts
    refine exists_counted_of_step [ResourceGroup.assignments c call.resource.id
      subscription (resourceGroupScope name subscription)] (fun text => ?_) ?_ ends
    · rw [ofKind, ResourceGroup.grants, decoded, group]
      rfl
    · rw [List.forall_mem_singleton]
      exact sifts_assignments _ _ _

theorem exists_counted_role (role : call.type = .role) (ends : call.act c s = (outcome, t)) :
    ∃ drops, Counted c call s outcome drops t := by
  have ofKind (text : String) : grants c call.type call.context call.resource text =
      Role.grants c call.context call.resource text := by rw [role]; rfl
  cases decoded : splitRoleResourceId call.resource.id.id with
  | error fault =>
    exact exists_counted_of_throw (by rw [GrantsCall.act, ofKind, Role.grants, decoded]; rfl) ends
  | ok parts =>
    cases sized : c.pageSize with
    | error misuse =>
      exact exists_counted_of_throw
        (by rw [GrantsCall.act, ofKind, Role.grants, decoded, sized]; rfl) ends
    | ok size =>
      obtain ⟨name, subscription⟩ := parts
      refine exists_counted_of_step [Connector.markerPhase Slug.assigned size
        (c.index.assignments subscription name none)
        (Run.filterMap (Role.holderGrant c call.resource.id))] (fun text => ?_) ?_ ends
      · rw [ofKind, Role.grants, decoded, sized, role]
        rfl
      · rw [List.forall_mem_singleton, role]
        exact sifts_markerPhase _ _ (keeps_index_read (·.ofRole name) subscription none)
          (countsOnce_holderGrant c call.resource.id)

theorem exists_counted_application (application : call.type = .enterpriseApplication)
    (ends : call.act c s = (outcome, t)) : ∃ drops, Counted c call s outcome drops t := by
  have ofKind (text : String) : grants c call.type call.context call.resource text =
      Application.grants c call.context call.resource text := by rw [application]; rfl
  cases sized : c.pageSize with
  | error misuse =>
    exact exists_counted_of_throw
      (by rw [GrantsCall.act, ofKind, Application.grants, sized]; rfl) ends
  | ok size =>
    refine exists_counted_of_step [
      c.directoryPhase Slug.owners
        (Directory.url ["servicePrincipals", call.resource.id.id, Slug.owners]
          (Application.ownerParameters c) true)
        (Group.translateMemberships .enterpriseApplication call.resource.id Slug.owners true false),
      Connector.markerPhase Slug.assignment size
        (do Run.reading ((← Application.record c call.resource.id.id).listField
          "appRoleAssignedTo"))
        (Run.filterMap (Application.assignmentGrant c call.resource))] (fun text => ?_) ?_ ends
    · rw [ofKind, Application.grants, sized, application]
      rfl
    · simp only [List.forall_mem_cons, application]
      refine ⟨sifts_directoryPhase _ _ ?_, sifts_markerPhase _ _ ?_ ?_, by simp⟩
      · exact countsOnce_membershipGrant _ .enterpriseApplication call.resource.id _ true false
      · exact fun tallies =>
          (keeps_record_tallied c tallies _).bind fun _ _ => keeps_reading _
      · exact countsOnce_assignmentGrant c call.resource

/-- Every call for grants has an account of what it counts. -/
theorem exists_counted (ends : call.act c s = (outcome, t)) :
    ∃ drops, Counted c call s outcome drops t := by
  cases kind : call.type with
  | group =>
    refine exists_counted_of_step [
      c.directoryPhase Slug.owners (Directory.url ["groups", call.resource.id.id, Slug.owners]
          [("$select", Group.membershipFields)] true)
        (Group.translateMemberships .group call.resource.id Slug.owners true true),
      c.directoryPhase Slug.members (Directory.url ["groups", call.resource.id.id, Slug.members]
          (c.withOnPremisesFilter [("$select", Group.membershipFields), ("$top", "999")]) true)
        (Group.translateMemberships .group call.resource.id Slug.members false true)]
      (fun text => by rw [kind]; rfl) ?_ ends
    simp only [List.forall_mem_cons, kind]
    exact ⟨sifts_directoryPhase _ _ (countsOnce_membershipGrant _ .group _ _ _ _),
      sifts_directoryPhase _ _ (countsOnce_membershipGrant _ .group _ _ _ _), by simp⟩
  | enterpriseApplication => exact exists_counted_application kind ends
  | resourceGroup => exact exists_counted_resourceGroup kind ends
  | role => exact exists_counted_role kind ends
  | storageAccount =>
    exact exists_counted_storage .account (fun text => by rw [kind]; rfl) kind.symm ends
  | container =>
    exact exists_counted_storage .container (fun text => by rw [kind]; rfl) kind.symm ends
  | user | managedIdentity | tenant | subscription =>
    -- Nothing is granted on these.
    have nothing : call.act c = pure ([], "") := by rw [GrantsCall.act, kind]; rfl
    rw [nothing] at ends
    cases ends
    exact ⟨[], .untouched rfl⟩

end Kinds

/-! ## Histories -/

/-- The calls are made one after the other, some of them for resources of the kind.  The drops of
the kind are those that were kept, which the calls that returned have counted, and those that were
lost, which the calls that failed have counted. -/
inductive History (c : Connector) (type : ResourceType) (s : Session) :
    List GrantsCall → (kept lost : List Drop) → Session → Prop where
  | start : History c type s [] [] [] s
  | returned {calls : List GrantsCall} {call : GrantsCall} {kept lost drops : List Drop}
      {page : List Grant × String} {t u : Session} (history : History c type s calls kept lost t)
      (own : call.type = type) (returns : call.act c t = (.ok page, u))
      (counted : Counted c call t (.ok page) drops u) :
      History c type s (calls ++ [call]) (kept ++ drops) lost u
  | failed {calls : List GrantsCall} {call : GrantsCall} {kept lost drops : List Drop}
      {stop : Stop} {t u : Session} (history : History c type s calls kept lost t)
      (own : call.type = type) (fails : call.act c t = (.error stop, u))
      (counted : Counted c call t (.error stop) drops u) :
      History c type s (calls ++ [call]) kept (lost ++ drops) u
  | elsewhere {calls : List GrantsCall} {call : GrantsCall} {kept lost : List Drop} {t u : Session}
      {outcome : Except Stop (List Grant × String)} (history : History c type s calls kept lost t)
      (other : call.type ≠ type) (ends : call.act c t = (outcome, u)) :
      History c type s (calls ++ [call]) kept lost u

namespace History

variable {c : Connector} {type : ResourceType} {s t : Session} {calls : List GrantsCall}
  {kept lost : List Drop}

theorem count (history : History c type s calls kept lost t) (key : DropKind × String) :
    (t.tallies type).count key = (s.tallies type).count key + kept.countP (·.key == key) +
      lost.countP (·.key == key) := by
  induction history with
  | start => simp
  | returned _ own _ counted inductionHypothesis =>
    subst own
    rw [counted.counts.own, inductionHypothesis, List.countP_append]
    omega
  | failed _ own _ counted inductionHypothesis =>
    subst own
    rw [counted.counts.own, inductionHypothesis, List.countP_append]
    omega
  | elsewhere _ other ends inductionHypothesis =>
    obtain ⟨drops, counted⟩ := exists_counted ends
    rw [counted.counts.others _ other.symm, inductionHypothesis]

theorem exists_of_calls (c : Connector) (type : ResourceType) (s : Session)
    (calls : List GrantsCall) :
    ∃ kept lost, History c type s calls kept lost (GrantsCall.actAll c calls s) := by
  -- From the last call back, since a history grows at its end.
  induction calls using List.reverseRecOn with
  | nil => exact ⟨[], [], .start⟩
  | append_singleton calls call inductionHypothesis =>
    obtain ⟨kept, lost, history⟩ := inductionHypothesis
    have last : GrantsCall.actAll c (calls ++ [call]) s =
        (call.act c (GrantsCall.actAll c calls s)).2 := by
      rw [GrantsCall.actAll, List.foldl_append]
      rfl
    rw [last]
    by_cases own : call.type = type
    · match ends : call.act c (GrantsCall.actAll c calls s) with
      | (.ok page, u) =>
        obtain ⟨drops, counted⟩ := exists_counted ends
        exact ⟨kept ++ drops, lost, history.returned own ends counted⟩
      | (.error stop, u) =>
        obtain ⟨drops, counted⟩ := exists_counted ends
        exact ⟨kept, lost ++ drops, history.failed own ends counted⟩
    · exact ⟨kept, lost, history.elsewhere own (Prod.ext rfl rfl)⟩

/-- The counts are those of the calls that returned only if the calls that failed dropped
nothing. -/
theorem lost_eq_nil_iff (history : History c type s calls kept lost t) :
    (∀ key, (t.tallies type).count key =
      (s.tallies type).count key + kept.countP (·.key == key)) ↔ lost = [] := by
  rw [← countP_key_eq_zero_iff]
  refine forall_congr' fun key => ?_
  rw [history.count key]
  omega

end History

/-- What calls for grants count.  A call leaves the tallies as they were, or it translates a page
and counts the drops of its records one by one: of all of them if it returns, and of those before
the one that the translation stops at if it fails.  So after a history of calls, repeated ones among
them, the counts are those of the calls that returned and those of the calls that failed together,
and a history in which no failed call met a drop first is one whose counts are as if no call had
failed. -/
theorem grants_counted (c : Connector) :
    (∀ call s outcome t, GrantsCall.act c call s = (outcome, t) →
      ∃ drops, Counted c call s outcome drops t ∧ Counts call.type drops s t ∧
        ((∀ key, (t.tallies call.type).count key = (s.tallies call.type).count key) ↔
          drops = [])) ∧
    ∀ type s calls, ∃ kept lost, History c type s calls kept lost (GrantsCall.actAll c calls s) ∧
      (∀ key, ((GrantsCall.actAll c calls s).tallies type).count key =
        (s.tallies type).count key + kept.countP (·.key == key) + lost.countP (·.key == key)) ∧
      ((∀ key, ((GrantsCall.actAll c calls s).tallies type).count key =
        (s.tallies type).count key + kept.countP (·.key == key)) ↔ lost = []) := by
  constructor
  · intro call s outcome t ends
    obtain ⟨drops, counted⟩ := exists_counted ends
    exact ⟨drops, counted, counted.counts, counted.counts.eq_nil_iff⟩
  · intro type s calls
    obtain ⟨kept, lost, history⟩ := History.exists_of_calls c type s calls
    exact ⟨kept, lost, history, history.count, history.lost_eq_nil_iff⟩

/-- A directory that answers every request with the same two owners: a service principal of a
subtype that stands for nothing, and a device. -/
def ownersWorld : World where
  answer _
    | .request _ => .ok ⟨200, [], "\x7b\"value\":[" ++
        "\x7b\"@odata.type\":\"#microsoft.graph.servicePrincipal\",\"id\":\"s1\"," ++
        "\"servicePrincipalType\":\"SocialIdp\"\x7d," ++
        "\x7b\"@odata.type\":\"#microsoft.graph.device\",\"id\":\"d1\"\x7d]\x7d"⟩
    | .clientToken .. => .error (.unexpected "")
    | .credentialToken _ => .ok "token"
    | .openClient _ => ()
    | .listPage .. => .ok .none
    | .operate _ => .ok (.mapping [])
    | .freshName => ""
    | .sleep _ => .ok ()
    | .clock => (0 : Int)
  cancels _ _ := false

theorem impartial_context (c : Connector) : Impartial c.context := fun _ => rfl

def ownersCall (c : Connector) : GrantsCall :=
  ⟨.group, c.context, impartial_context c, ⟨⟨.group, "g1"⟩, "g1", none, .null⟩, ""⟩

/-- What the service principal is counted under. -/
def socialKey : DropKind × String := (.servicePrincipalType, "SocialIdp")

theorem grants_counted_ownersWorld :
    ∃ c stop drops t, Connector.ofConfig ownersWorld 5 (.mapping []) true = .ok c ∧
      (ownersCall c).act c Session.new = (.error stop, t) ∧
      Counted c (ownersCall c) Session.new (.error stop) drops t ∧
      drops.countP (·.key == socialKey) = 1 := by
  have evaluated : ((Connector.ofConfig ownersWorld 5 (.mapping []) true).toOption.map fun c =>
      let ended := (ownersCall c).act c Session.new
      (ended.1.toOption.isSome, (ended.2.tallies .group).count socialKey)) = some (false, 1) := by
    decide +kernel
  obtain ⟨c, created, ended⟩ := Option.map_eq_some_iff.mp evaluated
  match ends : (ownersCall c).act c Session.new with
  | (.ok page, t) =>
    rw [ends] at ended
    cases congrArg Prod.fst ended
  | (.error stop, t) =>
    rw [ends] at ended
    obtain ⟨drops, counted, counts, -⟩ := (grants_counted c).1 _ _ _ _ ends
    have own := counts.own socialKey
    have more : (t.tallies .group).count socialKey = 1 := congrArg Prod.snd ended
    have fresh : (Session.new.tallies .group).count socialKey = 0 := rfl
    have kind : (ownersCall c).type = .group := rfl
    rw [kind, more, fresh] at own
    exact ⟨c, stop, drops, t, eq_ok_of_toOption created, ends, counted, by omega⟩

/-- A call for grants fails at the second owner and has counted the first one by then, and the same
call again counts it once more. -/
theorem exists_aborted_counted :
    ∃ c stop t again u, Connector.ofConfig ownersWorld 5 (.mapping []) true = .ok c ∧
      (ownersCall c).act c Session.new = (.error stop, t) ∧
      (ownersCall c).act c t = (.error again, u) ∧
      (Session.new.tallies .group).count socialKey = 0 ∧
      (t.tallies .group).count socialKey = 1 ∧ (u.tallies .group).count socialKey = 2 := by
  have evaluated : ((Connector.ofConfig ownersWorld 5 (.mapping []) true).toOption.map fun c =>
      let ended := (ownersCall c).act c Session.new
      let repeated := (ownersCall c).act c ended.2
      (ended.1.toOption.isSome, repeated.1.toOption.isSome,
        (ended.2.tallies .group).count socialKey, (repeated.2.tallies .group).count socialKey)) =
      some (false, false, 1, 2) := by
    decide +kernel
  obtain ⟨c, created, ended⟩ := Option.map_eq_some_iff.mp evaluated
  match ends : (ownersCall c).act c Session.new with
  | (.ok page, t) =>
    simp only [ends] at ended
    cases congrArg Prod.fst ended
  | (.error stop, t) =>
    simp only [ends] at ended
    match repeated : (ownersCall c).act c t with
    | (.ok page, u) =>
      rw [repeated] at ended
      cases congrArg (·.2.1) ended
    | (.error again, u) =>
      rw [repeated] at ended
      exact ⟨c, stop, t, again, u, eq_ok_of_toOption created, ends, repeated, rfl,
        congrArg (·.2.2.1) ended, congrArg (·.2.2.2) ended⟩

end Catalog

end AccessSync
