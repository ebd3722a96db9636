import AccessSync.Proofs.Catalog.Provenance
import AccessSync.Proofs.Directory.Attempts
import AccessSync.Proofs.Enumeration.Absent
import AccessSync.Proofs.Json.RoundTrip

/-!
# Which slugs grants can have

What an enumeration of grants can deliver is a matter of what the services say.  One service is
enough to see what groups and applications can have: it gives the same answer to every request, and
the answer is a collection with one user in it and an application with one role that is assigned.
-/

namespace AccessSync.Catalog

open Enumeration (Brief Untroubled)

/-- Some services let a new connector find a grant of the slug when it drains the grants of the
resource. -/
def Emittable (type : ResourceType) (resource : ResourceId) (slug : String) : Prop :=
  ∃ world limit config c holder found t, Connector.ofConfig world limit config true = .ok c ∧
    holder.id = resource ∧ c.drain (grants c type c.context holder) Session.new = (.ok found, t) ∧
    ∃ grant ∈ found, grant.resource = resource ∧ grant.slug = slug

/-! ## An echo -/

/-- Services that have one answer. -/
def echoWorld (body : Value) : World where
  answer _
    | .request _ => .ok ⟨200, [], Json.compact body⟩
    | .clientToken .. => .error (.unexpected "")
    | .credentialToken _ => .ok ""
    | .openClient _ => ()
    | .listPage .. => .ok .none
    | .operate _ => .ok .null
    | .freshName => ""
    | .sleep _ => .ok ()
    | .clock => (0 : Int)
  cancels _ _ := false

def echoedUser : Value := .record [("@odata.type", .text userDiscriminator), ("id", .text "u1")]

def echoedAssignment (role : String) : Value := .record [
  ("principalId", .text "u1"), ("principalType", .text "User"), ("appRoleId", .text role)]

/-- The answer: a collection of one user, and an application that one role of is assigned. -/
def echoBody (role : String) : Value := .record [
  ("value", .list [echoedUser]), ("appRoleAssignedTo", .list [echoedAssignment role])]

/-- The connector works on the echo, with the credential of its surroundings. -/
structure Echoes (c : Connector) (body : Value) : Prop where
  restorable : Json.Restorable body
  world : c.world = echoWorld body
  config : c.directory.config = .mapping []
  credential : c.directory.hasCredential = true

/-- The run goes on, and whatever is kept as the record of an application is the one answer. -/
structure Echoing (body : Value) (s : Session) : Prop where
  current : s.cancelled = false
  records : ∀ id kept, s.objects.servicePrincipals.get? id = some kept → kept = body

variable {body : Value} {role : String} {c : Connector}

theorem restorable_echoBody (role : String) : Json.Restorable (echoBody role) := by
  have user : Json.Restorable echoedUser := by
    refine .record _ (by decide) ?_
    simp only [List.forall_mem_cons]
    exact ⟨.text _, .text _, by simp⟩
  have assignment : Json.Restorable (echoedAssignment role) := by
    refine .record _ (by decide : ["principalId", "principalType", "appRoleId"].Nodup) ?_
    simp only [List.forall_mem_cons]
    exact ⟨.text _, .text _, .text _, by simp⟩
  refine .record _ (by decide : ["value", "appRoleAssignedTo"].Nodup) ?_
  simp only [List.forall_mem_cons]
  exact ⟨.list _ (by simpa using user), .list _ (by simpa using assignment), by simp⟩

/-- A connector with nothing configured is what it should be, on any services. -/
theorem exists_configured (world : World) (limit : Nat) :
    ∃ c, Connector.ofConfig world limit (.mapping []) true = .ok c ∧ c.world = world ∧
      c.limit = limit ∧ c.pageSize = .ok 100 ∧ c.directory.config = .mapping [] ∧
      c.directory.hasCredential = true := by
  have ready : (Directory.Settings.ofConfig (.mapping []) true).toOption.isSome = true := by
    decide +kernel
  obtain ⟨settings, found⟩ := Option.isSome_iff_exists.mp ready
  have configured := eq_ok_of_toOption found
  refine ⟨_, by rw [Connector.ofConfig, configured]; rfl, rfl, rfl, rfl, ?_⟩
  obtain ⟨_, -, configured⟩ := exists_of_bind_eq_ok configured
  obtain ⟨_, -, configured⟩ := exists_of_bind_eq_ok configured
  obtain ⟨_, -, configured⟩ := exists_of_bind_eq_ok configured
  cases configured
  exact ⟨rfl, rfl⟩

theorem exists_echo (role : String) :
    ∃ c, Connector.ofConfig (echoWorld (echoBody role)) 2 (.mapping []) true = .ok c ∧
      Echoes c (echoBody role) ∧ c.limit = 2 ∧ c.pageSize = .ok 100 := by
  obtain ⟨c, configured, world, limit, sized, config, credential⟩ :=
    exists_configured (echoWorld (echoBody role)) 2
  exact ⟨c, configured, ⟨restorable_echoBody role, world, config, credential⟩, limit, sized⟩

namespace Echoing

theorem new (body : Value) : Echoing body Session.new := ⟨rfl, fun _ _ kept => by cases kept⟩

theorem of_same {s t : Session} (echoing : Echoing body s) (current : t.cancelled = s.cancelled)
    (objects : t.objects = s.objects) : Echoing body t where
  current := current.trans echoing.current
  records := objects ▸ echoing.records

end Echoing

theorem untroubled_echo (echoes : Echoes c body) : Untroubled (Echoing body) c.context where
  look s echoing := by
    have unsigned : (s.cancelled || c.world.cancels s.looks s.history) = false := by
      rw [echoing.current, echoes.world]
      rfl
    exact ⟨unsigned, echoing.of_same (unsigned.trans echoing.current.symm) rfl⟩
  record _ _ echoing := echoing.of_same rfl rfl

/-! ### Requests -/

theorem isEmpty_compact (restorable : Json.Restorable body) :
    (Json.compact body).isEmpty = false := by
  obtain ⟨c, cs, chars, -, -⟩ := Json.inlineChars_cons restorable
  rw [Json.compact, chars]
  simp

theorem send_echo (restorable : Json.Restorable body) (settings : Directory.Settings)
    (request : HttpRequest) (attempt remaining : Nat) (s : Session) :
    Directory.send (echoWorld body) settings request attempt remaining s =
      (.ok body, { s with history := .request request :: s.history }) := by
  have answered : (echoWorld body).answer s.history (.request request) =
      .ok ⟨200, [], Json.compact body⟩ := rfl
  have lasting : Directory.passingReason? (.ok ⟨200, [], Json.compact body⟩) = none := rfl
  have concluded : Directory.conclude request attempt (.ok ⟨200, [], Json.compact body⟩) =
      pure body := by
    simp [Directory.conclude, Directory.interpret, isEmpty_compact restorable,
      Json.parse?_compact restorable]
  rw [Directory.send_of_lasting answered lasting, concluded]
  rfl

theorem token_echo (echoes : Echoes c body) (s : Session) :
    Directory.token c.world c.directory Directory.defaultScopes s =
      (.ok (.text ""),
        { s with history := .credentialToken Directory.defaultScopes :: s.history }) := by
  have secretless :
      (Directory.entryOr (.mapping []) "azure_client_secret" .null).holds = false := rfl
  rw [Directory.token, echoes.config, echoes.credential, secretless, echoes.world]
  rfl

theorem ends_query (echoes : Echoes c body) (method url : String) (content : Option Value) :
    Ends (Echoing body) (c.query method url content) (.ok body) := by
  intro s echoing
  rw [Connector.query, Directory.query, Run.bind_of_ok (token_echo echoes s), echoes.world,
    send_echo echoes.restorable]
  exact ⟨rfl, echoing.of_same rfl rfl⟩

theorem ends_record (echoes : Echoes c (echoBody role)) (id : String) :
    Ends (Echoing (echoBody role)) (Application.record c id) (.ok (echoBody role)) := by
  refine Act.ends_cached (fun s echoing _ => ?_) (fun s kept echoing known => ?_)
    fun record s echoing => echoing.of_same rfl rfl
  · have produced : Ends (Echoing (echoBody role)) (do
        return Directory.recordOf (← c.query "GET" (Application.recordUrl id) none))
        (.ok (echoBody role)) :=
      (ends_query echoes "GET" _ none).bind (Ends.pure _)
    obtain ⟨u, returns, after⟩ := produced.returns echoing
    exact ⟨u, returns, after.current, Cache.forall_insert after.records rfl⟩
  · rw [echoing.records id kept known]

/-! ### Phases -/

theorem brief_memberships (echoes : Echoes c (echoBody role)) (paging : Paging)
    (type : ResourceType) (resource : ResourceId) (slug url : String)
    (strict acceptGroups : Bool) :
    Brief (Echoing (echoBody role)) paging (c.directoryPhase slug url
      (Group.translateMemberships type resource slug strict acceptGroups))
      [grantTo resource slug ⟨.user, "u1"⟩ "" none] := by
  have fetched : Ends (Echoing (echoBody role)) (Directory.fetchPage c.world c.directory url)
      (.ok ⟨.list [echoedUser], .null⟩) :=
    (ends_query echoes "GET" url none).bind (Ends.pure _)
  have page : Ends (Echoing (echoBody role)) ((c.directoryPhase slug url
      (Group.translateMemberships type resource slug strict acceptGroups)).fetch none)
      (.ok ⟨[echoedUser], none⟩) :=
    fetched.bind (Ends.reading rfl)
  apply Brief.of_lastPage page rfl
  cases acceptGroups <;> exact Ends.pure _

def echoedGrant (app : Resource) (role : String) : Grant :=
  ⟨app.id, Application.assignmentSlug role, ⟨.user, "u1"⟩, "", none⟩

theorem ends_echoedGrant {P : Session → Prop} (nonempty : role ≠ "") (app : Resource) :
    Ends P (Application.assignmentGrant c app (echoedAssignment role))
      (.ok (some (echoedGrant app role))) := by
  have named : (Value.orElse (.text role) (.text Application.defaultRole)).display = role := by
    simp [Value.orElse, Value.isEmpty, nonempty, Value.display]
  have granted : Application.assignmentTo app (echoedAssignment role) ⟨.user, "u1"⟩ none =
      .ok (echoedGrant app role) := by
    rw [echoedGrant]
    conv => rhs; rw [← named]
    rfl
  change Ends P (do
    return some (← Run.reading
      (Application.assignmentTo app (echoedAssignment role) ⟨.user, "u1"⟩ none))) _
  exact (Ends.reading granted).bind (Ends.pure _)

abbrev Application.ownersPhase (c : Connector) (app : Resource) : Phase Session Grant :=
  c.directoryPhase Slug.owners
    (Directory.url ["servicePrincipals", app.id.id, Slug.owners] (ownerParameters c) true)
    (Group.translateMemberships .enterpriseApplication app.id Slug.owners true false)

/-- The phase over the assignments that the record of an application lists. -/
abbrev Application.assignedPhase (c : Connector) (app : Resource) (size : Int) :
    Phase Session Grant :=
  Connector.markerPhase Slug.assignment size
    (do Run.reading ((← record c app.id.id).listField "appRoleAssignedTo"))
    (Run.filterMap (assignmentGrant c app))

theorem brief_assignments (echoes : Echoes c (echoBody role)) (nonempty : role ≠ "")
    (paging : Paging) (app : Resource) :
    Brief (Echoing (echoBody role)) paging (Application.assignedPhase c app 100)
      [echoedGrant app role] := by
  have loaded : Ends (Echoing (echoBody role))
      (do Run.reading ((← Application.record c app.id.id).listField "appRoleAssignedTo"))
      (.ok [echoedAssignment role]) :=
    (ends_record echoes app.id.id).bind (Ends.reading rfl)
  have page : Ends (Echoing (echoBody role)) ((Application.assignedPhase c app 100).fetch none)
      (.ok ⟨[echoedAssignment role], none⟩) :=
    loaded.bind (Ends.pure _)
  apply Brief.of_lastPage page rfl
  exact (ends_echoedGrant nonempty app).bind ((Ends.pure _).bind (Ends.pure _))

/-! ## What can be found -/

/-- Where the two phases of an enumeration are brief, all their grants come out of it. -/
theorem emittable_of_brief {P : Session → Prop} {type : ResourceType} {holder : Resource}
    {first second : Phase Session Grant} {early late : List Grant} {world : World} {limit : Nat}
    {config : Value} (configured : Connector.ofConfig world limit config true = .ok c)
    (untroubled : Untroubled P c.context) (new : P Session.new) (enough : 2 ≤ c.limit)
    (phased : grants c type c.context holder = c.step type c.context [first, second])
    (distinct : [first.tag, second.tag].Nodup) (tagged : first.tag ≠ "" ∧ second.tag ≠ "")
    (begins : Brief P (c.paging type) first early) (ends : Brief P (c.paging type) second late)
    {grant : Grant} (found : grant ∈ early ++ late) (own : grant.resource = holder.id) :
    Emittable type holder.id grant.slug := by
  let briefs : List (Phase Session Grant × List Grant) := [(first, early), (second, late)]
  have tags : ((briefs.map Prod.fst).map Phase.tag).Nodup := distinct
  have named : ∀ phase ∈ briefs.map Prod.fst, phase.tag ≠ "" := by simpa [briefs] using tagged
  have brief : ∀ entry ∈ briefs, Brief P (c.paging type) entry.1 entry.2 := by
    simpa [briefs] using And.intro begins ends
  have drained : Ends P (c.drain (grants c type c.context holder)) (.ok (early ++ late)) := by
    have both := Enumeration.ends_drain_brief untroubled tags named brief (by simp [briefs]) enough
    simp only [briefs, List.map_cons, List.map_nil, List.flatMap_cons, List.flatMap_nil,
      List.append_nil] at both
    rw [phased]
    exact both
  obtain ⟨t, returns, -⟩ := drained.returns new
  exact ⟨world, limit, config, c, holder, _, t, configured, rfl, returns, grant, found, own, rfl⟩

theorem emittable_application (resource : ResourceId) {slug : String} (nonempty : role ≠ "")
    (either : slug = Slug.owners ∨ slug = Application.assignmentSlug role) :
    Emittable .enterpriseApplication resource slug := by
  obtain ⟨c, configured, echoes, limit, sized⟩ := exists_echo role
  let app : Resource := ⟨resource, "", none, .null⟩
  have phased : grants c .enterpriseApplication c.context app =
      c.step .enterpriseApplication c.context
        [Application.ownersPhase c app, Application.assignedPhase c app 100] := by
    funext cursor
    rw [grants, Application.grants, sized]
    rfl
  have emitted {grant : Grant} (found : grant ∈ [_, _]) (own : grant.resource = resource) :=
    emittable_of_brief configured (untroubled_echo echoes) (.new _) (Nat.le_of_eq limit.symm) phased
      (by decide : [Slug.owners, Slug.assignment].Nodup)
      (by decide : Slug.owners ≠ "" ∧ Slug.assignment ≠ "")
      (brief_memberships echoes _ _ _ _ _ _ _) (brief_assignments echoes nonempty _ app) found own
  obtain rfl | rfl := either
  · exact emitted List.mem_cons_self rfl
  · exact emitted (List.mem_cons_of_mem _ List.mem_cons_self) rfl

theorem emittable_group (resource : ResourceId) {slug : String}
    (either : slug = Slug.owners ∨ slug = Slug.members) : Emittable .group resource slug := by
  obtain ⟨c, configured, echoes, limit, -⟩ := exists_echo ""
  have brief (slug url : String) (strict : Bool) :=
    brief_memberships echoes (c.paging .group) .group resource slug url strict true
  have emitted {grant : Grant} (found : grant ∈ [_, _]) (own : grant.resource = resource) :
      Emittable .group resource grant.slug :=
    emittable_of_brief configured (untroubled_echo echoes) (.new _) (Nat.le_of_eq limit.symm)
      (by exact (rfl : grants c .group c.context ⟨resource, "", none, .null⟩ = _))
      (by decide : [Slug.owners, Slug.members].Nodup)
      (by decide : Slug.owners ≠ "" ∧ Slug.members ≠ "") (brief _ _ _) (brief _ _ _) found own
  obtain rfl | rfl := either
  · exact emitted List.mem_cons_self rfl
  · exact emitted (List.mem_cons_of_mem _ List.mem_cons_self) rfl

/-! ## What cannot be found -/

/-- What holds of the grants on every page holds of a grant that can be found. -/
theorem slug_of_emittable {type : ResourceType} {resource : ResourceId} {slug : String}
    {Q : Grant → Prop} (emittable : Emittable type resource slug)
    (each : ∀ (c : Connector) (holder : Resource) (cursor : String),
      Ensures (fun _ => True) (grants c type c.context holder cursor) fun page =>
        ∀ grant ∈ page.1, Q grant) :
    ∃ grant, grant.slug = slug ∧ Q grant := by
  obtain ⟨world, limit, config, c, holder, found, t, -, -, drained, grant, member, -, own⟩ :=
    emittable
  have holds := (Enumeration.ensures_drain (each c holder) c.limit).returned trivial drained
  exact ⟨grant, own, holds grant member⟩

theorem emittable_group_iff {resource : ResourceId} {slug : String} :
    Emittable .group resource slug ↔ slug = Slug.owners ∨ slug = Slug.members := by
  constructor
  · intro emittable
    obtain ⟨grant, rfl, either⟩ := slug_of_emittable emittable fun c holder cursor =>
      (ensures_memberships c holder cursor).weaken fun page each grant member =>
        (each grant member).2
    exact either
  · exact emittable_group resource

theorem assigned_of_emittable {resource : ResourceId} {slug : String}
    (emittable : Emittable .role resource slug) : slug = Slug.assigned := by
  obtain ⟨grant, rfl, assigned⟩ := slug_of_emittable emittable fun c holder cursor =>
    (ensures_holders c holder cursor).weaken fun page each grant member => (each grant member).2
  exact assigned

end AccessSync.Catalog
