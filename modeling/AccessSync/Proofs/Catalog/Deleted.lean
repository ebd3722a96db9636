import AccessSync.Catalog
import AccessSync.Proofs.Catalog.Storage
import AccessSync.Proofs.Directory.Agreement
import AccessSync.Proofs.Directory.Attempts
import AccessSync.Proofs.Enumeration.Absent

/-!
# Grants of deleted objects

An object that was listed may be gone when its grants are listed, and the services then say of
everything that is asked about it that it does not exist.  The phases are lenient about that, so a
group or a resource group that is gone has no grants.  A storage resource that is gone cannot be
drained: its second phase asks the index, and the index makes a failure of its own out of the answer
of the service.
-/

namespace AccessSync

variable {P : Session → Prop}

/-! ## Answers about what does not exist -/

/-- The directory answers every request for the address with status 404. -/
def Directory.Gone (world : World) (url : String) : Prop :=
  ∀ history request, request.url = url → ∃ response : HttpResponse,
    world.answer history (.request request) = .ok response ∧ response.status = 404

/-- The management service answers every request for the role assignments at the scope with an error
for what does not exist. -/
def Management.Gone (world : World) (scope : String) : Prop :=
  ∀ history token, ∃ e : ServiceError,
    world.answer history (.listPage (.roleAssignments scope) token) = .error e ∧
      e.kind = .resourceNotFound

namespace Directory

variable {world : World} {settings : Settings} {url : String}

theorem fails_send (gone : Gone world url)
    (called : ∀ call s, P s → P { s with history := call :: s.history }) {request : HttpRequest}
    (about : request.url = url) (attempt remaining : Nat) :
    Fails P (send world settings request attempt remaining) fun failure =>
      failure.isNotFound = true := by
  intro s holds
  obtain ⟨response, answered, missing⟩ := gone s.history request about
  have lasting : passingReason? (.ok response) = none := by
    simp [passingReason?, isPassing, missing]
  have kind : refusalKind response = .notFound := by simp [refusalKind, missing]
  rw [send_of_lasting answered lasting, conclude_of_refused (by omega), kind]
  exact ⟨_, _, rfl, rfl, called _ s holds⟩

theorem fails_fetchPage (gone : Gone world url)
    (called : ∀ call s, P s → P { s with history := call :: s.history })
    (authorized : ∀ s, P s → ∃ value t,
      token world settings defaultScopes s = (.ok value, t) ∧ P t) :
    Fails P (fetchPage world settings url) fun failure => failure.isNotFound = true := by
  refine Fails.bind (Fails.after fun s holds => ?_) _
  obtain ⟨value, t, returns, after⟩ := authorized s holds
  exact ⟨value, t, returns, after, fails_send gone called rfl 1 _⟩

end Directory

namespace Management

variable {world : World} {scope : String}

theorem fails_roleAssignments (unaffected : Unaffected P) (gone : Gone world scope)
    (subscription : String) (token : Option String) :
    Fails P (roleAssignments world subscription scope token) fun failure =>
      failure.isNotFound = true := by
  refine Fails.after_ends (ends_withClient unaffected world _) (Fails.after fun s holds => ?_)
  obtain ⟨e, answer, missing⟩ := gone s.history (token.filter (!·.isEmpty))
  refine ⟨.error e, _, congrArg (Except.ok · , _) answer, unaffected.listed s _ _ holds, ?_⟩
  simp only [refuse, failureOf?, missing]
  exact Fails.raise rfl

end Management

/-- The index makes a failure of its own out of the answer. -/
theorem RoleIndex.fails_build {index : RoleIndex} {scope : String} (unaffected : Unaffected P)
    (gone : Management.Gone index.world scope) (limited : 1 ≤ index.limit) (subscription : String) :
    Fails P (index.build subscription scope) fun failure =>
      ∃ reason, failure = ⟨.cacheBuild scope reason, none⟩ := by
  -- The first page is asked for already, and only a limit of the rate is let through as it is.
  obtain ⟨limit, same⟩ : ∃ n, index.limit = n + 1 := ⟨index.limit - 1, by omega⟩
  have folded : Fails P (Management.foldRoleAssignments index.world subscription scope file
      index.limit none []) fun failure => failure.isNotFound = true := by
    rw [same]
    exact (Management.fails_roleAssignments unaffected gone subscription none).bind _
  refine Fails.bind (folded.onFault fun failure notFound => ?_) _
  have welcome : failure.isRateLimited = false := by
    unfold Failure.isNotFound at notFound
    unfold Failure.isRateLimited
    split at notFound
    next fault cause =>
      obtain ⟨kind, message, status, url⟩ := fault
      obtain rfl : kind = .notFound := by simpa using notFound
      simp [cause]
    next => cases notFound
  simp only [welcome, Bool.false_eq_true, if_false]
  exact Fails.raise ⟨_, rfl⟩

namespace Catalog

open Enumeration (Absent Untroubled)

variable {c : Connector}

/-! ## Groups -/

namespace Group

def ownersUrl (group : Resource) : String :=
  Directory.url ["groups", group.id.id, Slug.owners] [("$select", membershipFields)] true

def membersUrl (c : Connector) (group : Resource) : String :=
  Directory.url ["groups", group.id.id, Slug.members] (c.withOnPremisesFilter
    [("$select", membershipFields), ("$top", "999")]) true

/-- The group is gone, and the connector can obtain a token to learn of that. -/
structure Gone (c : Connector) (group : Resource) : Prop where
  authorized : ∀ s, ∃ value,
    (Directory.token c.world c.directory Directory.defaultScopes s).1 = .ok value
  owners : Directory.Gone c.world (ownersUrl group)
  members : Directory.Gone c.world (membersUrl c group)

end Group

/-- The run goes on. -/
def Current (s : Session) : Prop := s.cancelled = false

theorem unaffected_current : Unaffected Current where
  listed _ _ _ holds := holds
  opened _ _ holds := holds
  recorded _ _ holds := holds

theorem untroubled_current (quiet : ∀ looks history, c.world.cancels looks history = false) :
    Untroubled Current c.context where
  look s holds := by
    have unsigned : (s.cancelled || c.world.cancels s.looks s.history) = false := by
      rw [quiet, Bool.or_false]
      exact holds
    exact ⟨unsigned, unsigned⟩
  record _ _ holds := holds

theorem answering_current (world : World) : Directory.Answering (Along Current) world :=
  .along (fun _ _ holds => holds) (fun _ _ holds => holds) fun _ _ holds => holds

theorem absent_directoryPhase
    (authorized : ∀ s, ∃ value,
      (Directory.token c.world c.directory Directory.defaultScopes s).1 = .ok value)
    {url : String} (gone : Directory.Gone c.world url) {ι : Type} (tag : String)
    {translate : List Value → Act (List ι)} (idle : Ends Current (translate []) (.ok [])) :
    Absent Current (c.directoryPhase tag url translate) where
  lenient := rfl
  refused := by
    refine Fails.bind (Directory.fails_fetchPage gone (fun _ _ holds => holds) fun s holds => ?_) _
    obtain ⟨value, returns⟩ := authorized s
    have kept := keeps_iff_agrees.mpr
      (Directory.agrees_token (answering_current c.world) c.directory Directory.defaultScopes)
    exact ⟨value, _, Prod.ext returns rfl, (kept s holds).1⟩
  idle := idle

theorem ends_drain_groupGrants (quiet : ∀ looks history, c.world.cancels looks history = false)
    {group : Resource} (gone : Group.Gone c group) (enough : 2 ≤ c.limit) :
    Ends Current (c.drain (Group.grants c c.context group)) (.ok []) := by
  refine Enumeration.ends_drain_absent (untroubled_current quiet) ?distinct ?tagged ?absent
    (by simp) enough
  case distinct => exact (by decide : [Slug.owners, Slug.members].Nodup)
  case tagged =>
    simp only [List.forall_mem_cons]
    exact ⟨(by decide : Slug.owners ≠ ""), (by decide : Slug.members ≠ ""), by simp⟩
  case absent =>
    simp only [List.forall_mem_cons]
    exact ⟨absent_directoryPhase gone.authorized gone.owners _ (Ends.pure []),
      absent_directoryPhase gone.authorized gone.members _ (Ends.pure []), by simp⟩

/-! ## Resource groups -/

theorem absent_assignments (unaffected : Unaffected P) {scope : String}
    (gone : Management.Gone c.world scope) (resource : ResourceId) (subscription : String) :
    Absent P (ResourceGroup.assignments c resource subscription scope) where
  lenient := rfl
  refused := Management.fails_roleAssignments unaffected gone subscription none
  idle := Ends.pure []

theorem ends_drain_resourceGroupGrants
    (quiet : ∀ looks history, c.world.cancels looks history = false) {group : Resource}
    {name subscription : String}
    (located : splitResourceGroupId group.id.id = .ok (name, subscription))
    (gone : Management.Gone c.world (resourceGroupScope name subscription))
    (enough : 1 ≤ c.limit) :
    Ends Current (c.drain (ResourceGroup.grants c c.context group)) (.ok []) := by
  have stepped : ResourceGroup.grants c c.context group =
      c.step .resourceGroup c.context [ResourceGroup.assignments c group.id subscription
        (resourceGroupScope name subscription)] := by
    funext text
    rw [ResourceGroup.grants, located]
    rfl
  rw [stepped]
  refine Enumeration.ends_drain_absent (untroubled_current quiet) ?distinct ?tagged ?absent
    (by simp) enough
  case distinct => exact (by decide : [ResourceGroup.assignmentPhase].Nodup)
  case tagged =>
    simp only [List.forall_mem_cons]
    exact ⟨(by decide : ResourceGroup.assignmentPhase ≠ ""), by simp⟩
  case absent =>
    simp only [List.forall_mem_cons]
    exact ⟨absent_assignments unaffected_current gone _ _, by simp⟩

/-! ## Storage resources -/

namespace Storage

/-- The run goes on, and nothing is kept of the assignments at the scope. -/
structure Unfiled (index : RoleIndex) (scope : String) (s : Session) : Prop where
  current : s.cancelled = false
  unknown : (index.part.get s).get? scope = none

theorem Unfiled.of_same {index : RoleIndex} {scope : String} {s t : Session}
    (unfiled : Unfiled index scope s) (current : t.cancelled = false)
    (shared : s.objects.roleAssignments = t.objects.roleAssignments)
    (own : s.assignments = t.assignments) : Unfiled index scope t :=
  ⟨current, index.part_get_congr shared own ▸ unfiled.unknown⟩

theorem unaffected_unfiled (index : RoleIndex) (scope : String) :
    Unaffected (Unfiled index scope) where
  listed _ _ _ holds := holds.of_same holds.current rfl rfl
  opened _ _ holds := holds.of_same holds.current rfl rfl
  recorded _ _ holds := holds.of_same holds.current rfl rfl

theorem untroubled_unfiled (quiet : ∀ looks history, c.world.cancels looks history = false)
    (index : RoleIndex) (scope : String) : Untroubled (Unfiled index scope) c.context where
  look s holds := by
    obtain ⟨unsigned, -⟩ := (untroubled_current quiet).look s holds.current
    exact ⟨unsigned, holds.of_same unsigned rfl rfl⟩
  record _ _ holds := holds.of_same holds.current rfl rfl

/-- The first phase is lenient, and the second fails in the words of the index. -/
theorem fails_drain_grants (quiet : ∀ looks history, c.world.cancels looks history = false)
    (sameWorld : c.index.world = c.world) (limited : 1 ≤ c.index.limit) {target : Target}
    (either : target.kind = .account ∨ target.kind = .container)
    (located : target.kind.scope target.resource.id.id = .ok (target.subscription, target.scope))
    {size : Int} (sized : c.pageSize = .ok size) (gone : Management.Gone c.world target.scope)
    (enough : 2 ≤ c.limit) :
    Fails (Unfiled c.index target.scope) (c.drain (grants c target.kind c.context target.resource))
      fun failure => ∃ reason, failure = ⟨.cacheBuild target.scope reason, some actionPhase⟩ := by
  have unaffected := unaffected_unfiled c.index target.scope
  have roles : Fails (Unfiled c.index target.scope)
      (c.index.roles target.subscription (some target.scope))
      fun failure => ∃ reason, failure = ⟨.cacheBuild target.scope reason, none⟩ := by
    refine Fails.bind ?_ _
    simp only [RoleIndex.assignmentsByRole, RoleIndex.scopeOr_some (scope_ne_empty either located)]
    exact Act.fails_cached (fun _ holds => holds.unknown)
      (RoleIndex.fails_build unaffected (sameWorld ▸ gone) limited target.subscription)
  -- In the words of the index the failure is no answer about what does not exist, so the phase is
  -- as strict about it as any other.
  have refused : Enumeration.Refused (Unfiled c.index target.scope) (actionsPhase c target size)
      fun failure => ∃ reason, failure = ⟨.cacheBuild target.scope reason, none⟩ := by
    refine Fails.bind (roles.weaken fun failure found => ⟨?_, found⟩) _
    obtain ⟨reason, rfl⟩ := found
    rfl
  have stepped : grants c target.kind c.context target.resource =
      c.step target.kind.type c.context
        ([accessPhase c target] ++ [actionsPhase c target size]) := by
    funext text
    rw [grants, located, sized]
    rfl
  have distinct : (([accessPhase c target] ++ [actionsPhase c target size]).map
      Phase.tag).Nodup :=
    (by decide : [ResourceGroup.assignmentPhase, actionPhase].Nodup)
  have tagged : ∀ phase ∈ [accessPhase c target] ++ [actionsPhase c target size],
      phase.tag ≠ "" := by
    simp only [List.cons_append, List.nil_append, List.forall_mem_cons]
    exact ⟨(by decide : ResourceGroup.assignmentPhase ≠ ""), (by decide : actionPhase ≠ ""),
      by simp⟩
  have absent : ∀ phase ∈ [accessPhase c target],
      Absent (Unfiled c.index target.scope) phase := by
    simp only [List.forall_mem_cons]
    exact ⟨absent_assignments unaffected gone _ _, by simp⟩
  rw [stepped]
  refine (Enumeration.fails_drain_absent (untroubled_unfiled quiet c.index target.scope) distinct
    tagged absent refused enough).weaken fun failure found => ?_
  obtain ⟨_, ⟨reason, rfl⟩, rfl⟩ := found
  exact ⟨reason, rfl⟩

end Storage

/-! ## What a drain comes to -/

/-- A drain of the grants of a deleted group or resource group returns nothing; one of a deleted
storage resource fails, since its second phase cannot tell the answer of the service. -/
theorem drain_grants_deleted {world : World} {limit : Nat} {config : Value} {hasCredential : Bool}
    (configured : Connector.ofConfig world limit config hasCredential = .ok c)
    (quiet : ∀ looks history, world.cancels looks history = false) (enough : 2 ≤ limit)
    {s : Session} (current : Current s) :
    (∀ group, Group.Gone c group → ∃ t, c.drain (Group.grants c c.context group) s = (.ok [], t)) ∧
    (∀ group name subscription,
      splitResourceGroupId group.id.id = .ok (name, subscription) →
      Management.Gone world (resourceGroupScope name subscription) →
      ∃ t, c.drain (ResourceGroup.grants c c.context group) s = (.ok [], t)) ∧
    ∀ (target : Storage.Target) (size : Int),
      target.kind = .account ∨ target.kind = .container →
      target.kind.scope target.resource.id.id = .ok (target.subscription, target.scope) →
      c.pageSize = .ok size → Management.Gone world target.scope →
      (c.index.part.get s).get? target.scope = none →
      ∃ reason t, c.drain (Storage.grants c target.kind c.context target.resource) s =
        (.error (.fault (.failure ⟨.cacheBuild target.scope reason, some Storage.actionPhase⟩)),
          t) := by
  obtain ⟨rfl, rfl, index⟩ := Storage.ofConfig_ok configured
  refine ⟨fun group gone => ?_, fun group name subscription located gone => ?_,
    fun target size either located sized gone unknown => ?_⟩
  · obtain ⟨t, returns, -⟩ := (ends_drain_groupGrants quiet gone enough).returns current
    exact ⟨t, returns⟩
  · obtain ⟨t, returns, -⟩ :=
      (ends_drain_resourceGroupGrants quiet located gone (by omega)).returns current
    exact ⟨t, returns⟩
  -- An entry of the index would be answered from, so the scope must not have been drained before.
  · have limited : 1 ≤ c.index.limit := by
      rw [congrArg RoleIndex.limit index]
      exact Nat.le_of_succ_le enough
    obtain ⟨_, t, fails, ⟨reason, rfl⟩, -⟩ :=
      Storage.fails_drain_grants quiet (congrArg RoleIndex.world index) limited either located sized
        gone enough s ⟨current, unknown⟩
    exact ⟨reason, t, fails⟩

/-- Services that know of nothing, but issue tokens. -/
def emptyWorld : World where
  answer _
    | .request _ => .ok ⟨404, [], ""⟩
    | .clientToken .. => .error (.unexpected "")
    | .credentialToken _ => .ok "token"
    | .openClient _ => ()
    | .listPage .. => .error ⟨.resourceNotFound, "deleted", some 404, none⟩
    | .operate _ => .error ⟨.resourceNotFound, "deleted", some 404, none⟩
    | .freshName => ""
    | .sleep _ => .ok ()
    | .clock => (0 : Int)
  cancels _ _ := false

def deletedAccount : Storage.Target where
  kind := .account
  resource := ⟨⟨.storageAccount, "sub1:rg1:Microsoft.Storage:storageAccounts:acct1"⟩, "acct1", none,
    .null⟩
  subscription := "sub1"
  scope :=
    "/subscriptions/sub1/resourceGroups/rg1/providers/Microsoft.Storage/storageAccounts/acct1"

theorem gone_emptyWorld (scope : String) : Management.Gone emptyWorld scope :=
  fun _ _ => ⟨_, rfl, rfl⟩

theorem located_deletedAccount :
    deletedAccount.kind.scope deletedAccount.resource.id.id =
      .ok (deletedAccount.subscription, deletedAccount.scope) :=
  eq_ok_of_toOption (by decide +kernel)

theorem authorized_emptyWorld {settings : Directory.Settings}
    (configured : Directory.Settings.ofConfig (.record []) true = .ok settings) (s : Session) :
    (Directory.token emptyWorld settings Directory.defaultScopes s).1 = .ok (.text "token") := by
  obtain ⟨_, -, configured⟩ := exists_of_bind_eq_ok configured
  obtain ⟨_, -, configured⟩ := exists_of_bind_eq_ok configured
  obtain ⟨_, -, configured⟩ := exists_of_bind_eq_ok configured
  cases configured
  rfl

theorem exists_emptyConnector :
    ∃ c, Connector.ofConfig emptyWorld 2 (.record []) true = .ok c ∧ c.pageSize = .ok 100 := by
  have evaluated : (Connector.ofConfig emptyWorld 2 (.record []) true
      |>.toOption.map fun c => c.pageSize.toOption) = some (some 100) := by decide +kernel
  obtain ⟨c, created, sized⟩ := Option.map_eq_some_iff.mp evaluated
  exact ⟨c, eq_ok_of_toOption created, eq_ok_of_toOption sized⟩

theorem drain_grants_deleted_emptyWorld :
    ∃ c, Connector.ofConfig emptyWorld 2 (.record []) true = .ok c ∧
      (∃ t, c.drain (Group.grants c c.context ⟨⟨.group, "g"⟩, "", none, .null⟩) Session.new =
        (.ok [], t)) ∧
      (∃ t, c.drain (ResourceGroup.grants c c.context ⟨⟨.resourceGroup, "g:s"⟩, "", none, .null⟩)
        Session.new = (.ok [], t)) ∧
      ∃ reason t,
        c.drain (Storage.grants c .account c.context deletedAccount.resource) Session.new =
          (.error (.fault (.failure
            ⟨.cacheBuild deletedAccount.scope reason, some Storage.actionPhase⟩)), t) := by
  obtain ⟨c, configured, sized⟩ := exists_emptyConnector
  obtain ⟨groups, resourceGroups, storage⟩ :=
    drain_grants_deleted configured (fun _ _ => rfl) (by decide) (rfl : Current Session.new)
  have located : splitResourceGroupId "g:s" = .ok ("g", "s") :=
    eq_ok_of_toOption (by decide +kernel)
  obtain ⟨sameWorld, -, index⟩ := Storage.ofConfig_ok configured
  have gone : Group.Gone c ⟨⟨.group, "g"⟩, "", none, .null⟩ := by
    refine ⟨fun s => ⟨.text "token", ?_⟩, ?_, ?_⟩
    · rw [sameWorld]
      exact authorized_emptyWorld (Storage.ofConfig_directory configured) s
    · rw [sameWorld]
      exact fun _ _ _ => ⟨_, rfl, rfl⟩
    · rw [sameWorld]
      exact fun _ _ _ => ⟨_, rfl, rfl⟩
  refine ⟨c, configured, groups _ gone,
    resourceGroups _ "g" "s" located (gone_emptyWorld _),
    storage deletedAccount 100 (.inl rfl) located_deletedAccount sized (gone_emptyWorld _) ?_⟩
  rw [index]
  rfl

/-- A storage account is gone, and a drain of its grants does not end without an error. -/
theorem exists_drain_deleted_fails :
    ∃ c, Connector.ofConfig emptyWorld 2 (.record []) true = .ok c ∧
      StorageKind.account.scope deletedAccount.resource.id.id =
        .ok (deletedAccount.subscription, deletedAccount.scope) ∧
      Management.Gone c.world deletedAccount.scope ∧
      ¬ ∃ grants t, c.drain (Catalog.grants c .storageAccount c.context deletedAccount.resource)
        Session.new = (.ok grants, t) := by
  obtain ⟨c, configured, sized⟩ := exists_emptyConnector
  obtain ⟨sameWorld, sameLimit, index⟩ := Storage.ofConfig_ok configured
  have gone : Management.Gone c.world deletedAccount.scope := sameWorld ▸ gone_emptyWorld _
  refine ⟨c, configured, located_deletedAccount, gone, fun ⟨grants, t, returns⟩ => ?_⟩
  have fails := Storage.fails_drain_grants (fun _ _ => by rw [sameWorld]; rfl)
    (by rw [index, sameWorld]; rfl) (by rw [index]; decide) (.inl rfl) located_deletedAccount
    sized gone (Nat.le_of_eq sameLimit.symm)
  obtain ⟨_, _, stops, -⟩ := fails Session.new ⟨rfl, by rw [index]; rfl⟩
  cases returns.symm.trans stops

end Catalog

end AccessSync
