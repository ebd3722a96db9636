import AccessSync.Proofs.Catalog.Provenance

/-!
# Which scopes an index holds

An index drains a scope once and keeps what it drained until it is told to forget it.  What may be
seen from outside is the listing that a drain begins with and whether the answer is one: from these
alone it can be told which scopes are held.  Indexes over one cache of objects go by the same
entries, as long as each of them was made when the cache held something.  One that was made over an
empty cache keeps its entries to itself.
-/

namespace AccessSync

/-! ## Uses of indexes -/

/-- What an index is asked about a scope. -/
inductive IndexQuestion where
  | byRole
  | ofRole (role : String)
  | representative (role : String)
  | roles
  | find (role principal : String) (assignedAt : Option String)

/-- What is done with one of the indexes. -/
structure IndexUse where
  index : RoleIndex
  subscription : String
  scope : Option String
  /-- The question about the scope, or none to forget it. -/
  question : Option IndexQuestion

/-- What may be seen of a use. -/
inductive IndexEvent where
  /-- The scope was drained, with success or without. -/
  | drained (scope : String) (succeeded : Bool)
  | forgotten (scope : String)
  | answered
  deriving DecidableEq

/-- The scope is held after an event, if that is known of the time before it. -/
def IndexEvent.holds (scope : String) (held : Bool) : IndexEvent → Bool
  | .drained other succeeded => if other = scope then succeeded else held
  | .forgotten other => if other = scope then false else held
  | .answered => held

/-- After the events, the last drain of the scope succeeded and the scope was not forgotten since;
without either, it is as it was `held` before. -/
def heldAfter (scope : String) (held : Bool) (events : List IndexEvent) : Bool :=
  events.foldl (IndexEvent.holds scope) held

/-- The call asks for the first page of the listing at the scope. -/
def beginsListing (scope : String) : Call → Bool
  | .listPage (.roleAssignments listed) none => listed == scope
  | _ => false

/-- How often the listing at the scope was begun. -/
def listings (scope : String) (s : Session) : Nat := s.history.countP (beginsListing scope)

namespace IndexUse

def target (use : IndexUse) : String := RoleIndex.scopeOr use.subscription use.scope

def act (use : IndexUse) : Act Unit :=
  let index := use.index
  match use.question with
  | none => index.invalidate use.subscription use.scope
  | some .byRole => do
    let _ ← index.assignmentsByRole use.subscription use.scope
  | some (.ofRole role) => do
    let _ ← index.assignments use.subscription role use.scope
  | some (.representative role) => do
    let _ ← index.representative? use.subscription role use.scope
  | some .roles => do
    let _ ← index.roles use.subscription use.scope
  | some (.find role principal assignedAt) => do
    let _ ← index.find? use.subscription role principal use.scope assignedAt

def event (use : IndexUse) (s : Session) : IndexEvent :=
  match use.question with
  | none => .forgotten use.target
  | some _ =>
    if listings use.target (use.act s).2 = listings use.target s then .answered
    else .drained use.target (use.act s).1.isOk

def events : List IndexUse → Session → List IndexEvent
  | [], _ => []
  | use :: uses, s => use.event s :: events uses (use.act s).2

/-- The session after uses one after the other. -/
def actAll (uses : List IndexUse) (s : Session) : Session :=
  uses.foldl (fun s use => (use.act s).2) s

end IndexUse

/-- Between a drain of a scope that succeeded and the next drain of it, the scope is forgotten. -/
def DrainedOnce (events : List IndexEvent) : Prop :=
  ∀ scope before between after succeeded, events =
    before ++ .drained scope true :: (between ++ .drained scope succeeded :: after) →
    .forgotten scope ∈ between

/-! ## Drains -/

namespace RoleIndex

variable {index : RoleIndex} {subscription scope : String} {s t u : Session}

theorem listings_mono (since : Since s t) (scope : String) : listings scope s ≤ listings scope t :=
  since.sublist.countP_le

/-- Draining makes calls and leaves the entries of all indexes alone. -/
theorem build_frame (index : RoleIndex) (subscription scope : String) (s : Session) :
    Since s (index.build subscription scope s).2 ∧
      s.objects.roleAssignments = (index.build subscription scope s).2.objects.roleAssignments ∧
      s.assignments = (index.build subscription scope s).2.assignments := by
  have memory : OfMemory fun t => Since s t ∧
      s.objects.roleAssignments = t.objects.roleAssignments ∧ s.assignments = t.assignments :=
    fun t u holds since shared own _ =>
      ⟨holds.1.trans since, holds.2.1.trans shared, holds.2.2.trans own⟩
  have managed := memory.lasting.managed index.world
  exact (keeps_iff_agrees.mpr (agree_build managed (managed.client _) scope) s
    ⟨List.suffix_refl _, rfl, rfl⟩).1

theorem ofMemory_listings (scope : String) (n : Nat) :
    OfMemory fun t => n ≤ listings scope t :=
  fun _ _ holds since _ _ _ => Nat.le_trans holds (listings_mono since scope)

theorem listings_of_roleAssignments {world : World} {page : Page RoleAssignment}
    (returns : Management.roleAssignments world subscription scope none s = (.ok page, t)) :
    listings scope s < listings scope t := by
  obtain ⟨_, u, opened, returns⟩ := Run.exists_of_bind returns
  have before : listings scope s ≤ listings scope u :=
    (keeps_withClient (ofMemory_listings scope _).lasting world _).kept (Nat.le_refl _) opened
  obtain ⟨answer, v, called, returns⟩ := Run.exists_of_bind returns
  have begun : listings scope v = listings scope u + 1 := by
    cases called
    simp [listings, beginsListing]
  have after : listings scope s < listings scope v := by omega
  refine Ensures.kept (P := fun w => listings scope s < listings scope w) (Q := fun _ => True) ?_
    after returns
  cases answer with
  | error e => exact keeps_refuse _ e
  | ok page =>
    refine (keeps_reading _).bind fun _ _ => ?_
    split
    next => exact keeps_refuse _ _
    next => exact Ensures.pure trivial

theorem listings_of_build {entry : AssignmentsByRole}
    (returns : index.build subscription scope s = (.ok entry, t)) :
    listings scope s < listings scope t := by
  obtain ⟨filed, u, handled, returns⟩ := Run.exists_of_bind returns
  obtain ⟨_, _, reported, returns⟩ := Run.exists_of_bind returns
  cases reported
  cases returns
  change listings scope s < listings scope u
  -- The handler makes a failure of every fault, so a drain that returns has met none.
  have folded := Run.of_onFault (fun fault u => ?raises) handled
  case raises =>
    cases fault with
    | failure f =>
      simp only
      split
      next => exact nofun
      next => exact nofun
    | defect d => exact nofun
  cases limit : index.limit with
  | zero =>
    rw [limit] at folded
    cases folded
  | succ limit =>
    rw [limit] at folded
    obtain ⟨page, v, listed, rest⟩ := Run.exists_of_bind folded
    have lasting := (ofMemory_listings scope (listings scope s + 1)).lasting
    -- The first page begins a listing, and further pages take nothing back.
    refine Ensures.kept (P := fun w => listings scope s < listings scope w) (Q := fun _ => True) ?_
      (listings_of_roleAssignments listed) rest
    have filing : Keeps (fun t => listings scope s < listings scope t)
        (page.records.foldlM file []) :=
      keeps_iff_agrees.mpr (Agree.foldlM agrees_file _ _)
    refine filing.bind fun acc _ => ?_
    split
    next => exact Ensures.pure trivial
    next =>
      have managed := lasting.managed index.world
      exact keeps_iff_agrees.mpr
        (Management.agree_foldRoleAssignments managed (managed.client _) scope agrees_file _ _ _)

end RoleIndex

/-! ## One use -/

namespace IndexUse

variable {use : IndexUse} {question : IndexQuestion} {s t : Session}

theorem act_of_returns {entry : AssignmentsByRole} (asks : use.question = some question)
    (returns : use.index.assignmentsByRole use.subscription use.scope s = (.ok entry, t)) :
    use.act s = (.ok (), t) := by
  simp only [act, asks]
  cases question with
  | byRole => exact Run.bind_of_ok returns
  | ofRole role => exact Run.bind_of_ok (Run.bind_of_ok returns)
  | representative role => exact Run.bind_of_ok (Run.bind_of_ok (Run.bind_of_ok returns))
  | roles => exact Run.bind_of_ok (Run.bind_of_ok returns)
  | find role principal assignedAt =>
    exact Run.bind_of_ok (Run.bind_of_ok (Run.bind_of_ok returns))

theorem act_of_stops {stop : Stop} (asks : use.question = some question)
    (stops : use.index.assignmentsByRole use.subscription use.scope s = (.error stop, t)) :
    use.act s = (.error stop, t) := by
  simp only [act, asks]
  cases question with
  | byRole => exact Run.bind_of_error stops
  | ofRole role => exact Run.bind_of_error (Run.bind_of_error stops)
  | representative role => exact Run.bind_of_error (Run.bind_of_error (Run.bind_of_error stops))
  | roles => exact Run.bind_of_error (Run.bind_of_error stops)
  | find role principal assignedAt =>
    exact Run.bind_of_error (Run.bind_of_error (Run.bind_of_error stops))

def entries (use : IndexUse) (s : Session) : Cache String AssignmentsByRole :=
  use.index.part.get s

theorem act_of_held (asks : use.question = some question)
    (held : (use.entries s).contains use.target = true) : use.act s = (.ok (), s) := by
  obtain ⟨entry, known⟩ := Option.isSome_iff_exists.mp held
  exact act_of_returns asks (Act.cached_of_known known)

/-- A drain that succeeds adds the scope, and one that does not leaves the entries as they are. -/
theorem act_of_missing (asks : use.question = some question)
    (missing : (use.entries s).contains use.target = false) :
    (∃ entry t, use.act s = (.ok (), t) ∧ listings use.target s < listings use.target t ∧
        use.entries t = (use.entries s).insert use.target entry) ∨
      ∃ stop t, use.act s = (.error stop, t) ∧ use.entries t = use.entries s := by
  have unknown : (use.index.part.get s).get? use.target = none :=
    Option.not_isSome_iff_eq_none.mp (Bool.eq_false_iff.mp missing)
  obtain ⟨-, shared, own⟩ := use.index.build_frame use.subscription use.target s
  have same := use.index.part_get_congr shared own
  match built : use.index.build use.subscription use.target s with
  | (.ok entry, u) =>
    rw [built] at same
    obtain ⟨record, handed⟩ :=
      Act.cached_of_produced use.index.cacheName "role-assignments" unknown built
    refine .inl ⟨entry, _, act_of_returns asks handed, ?_, ?_⟩
    · have more := RoleIndex.listings_of_build built
      simpa [listings, Journaled.record] using more
    · have silent (v : Session) : use.entries (Journaled.record record v) = use.entries v :=
        use.index.part_get_congr rfl rfl
      rw [silent, entries, RoleIndex.part_get_set, entries, same]
  | (.error stop, u) =>
    rw [built] at same
    exact .inr ⟨stop, u, act_of_stops asks (Act.cached_of_stopped unknown built), same.symm⟩

/-- Whether a scope is held after a use can be told from what is seen of the use. -/
theorem holds_event (use : IndexUse) (s : Session) (scope : String) :
    (use.entries (use.act s).2).contains scope =
      (use.event s).holds scope ((use.entries s).contains scope) := by
  cases asks : use.question with
  | none =>
    have forgets : use.entries (use.act s).2 = (use.entries s).erase use.target := by
      simp only [act, asks]
      exact use.index.part_get_set _ _
    rw [forgets, Cache.contains_erase]
    simp [event, asks, IndexEvent.holds]
  | some question =>
    cases held : (use.entries s).contains use.target with
    | true =>
      simp [event, asks, act_of_held asks held, IndexEvent.holds]
    | false =>
      obtain ⟨entry, t, returns, more, stored⟩ | ⟨stop, t, stops, same⟩ := act_of_missing asks held
      · have drained : listings use.target t ≠ listings use.target s := by omega
        simp [event, asks, returns, drained, stored, Cache.contains_insert, IndexEvent.holds,
          Except.isOk, Except.toBool]
      · simp only [event, asks, stops, same]
        split
        next => rfl
        next =>
          by_cases here : use.target = scope
          · subst here
            simpa [IndexEvent.holds, Except.isOk, Except.toBool] using held
          · simp [IndexEvent.holds, here]

/-- A scope that is held is not drained. -/
theorem missing_of_event {scope : String} {succeeded : Bool}
    (drained : use.event s = .drained scope succeeded) :
    (use.entries s).contains scope = false := by
  cases asks : use.question with
  | none => simp [event, asks] at drained
  | some question =>
    have target : use.target = scope := by
      simp only [event, asks] at drained
      split at drained
      · cases drained
      · exact (IndexEvent.drained.inj drained).1
    subst target
    cases held : (use.entries s).contains use.target with
    | false => rfl
    | true => simp [event, asks, act_of_held asks held] at drained

/-- The entries among the shared objects are no concern of an index that keeps its own. -/
theorem act_of_own (own : use.index.shared = false) (s : Session) :
    (use.act s).2.objects.roleAssignments = s.objects.roleAssignments := by
  cases asks : use.question with
  | none =>
    simp only [act, asks, RoleIndex.invalidate, RoleIndex.part, own]
    rfl
  | some question =>
    have memory : OfMemory fun t => t.objects.roleAssignments = s.objects.roleAssignments :=
      fun t u holds _ shared _ _ => shared.symm.trans holds
    have keeps := keeps_assignmentsByRole memory.lasting use.index use.subscription use.scope
      fun t u entry _ _ holds => by simpa [RoleIndex.part, own] using holds
    match outcome : use.index.assignmentsByRole use.subscription use.scope s with
    | (.ok entry, t) =>
      rw [act_of_returns asks outcome]
      exact keeps.kept rfl outcome
    | (.error stop, t) =>
      rw [act_of_stops asks outcome]
      exact keeps.kept rfl outcome

end IndexUse

/-! ## Uses one after the other -/

theorem RoleIndex.part_of_shared {index other : RoleIndex} (same : index.shared = other.shared) :
    index.part = other.part := by
  simp [part, same]

namespace IndexUse

variable {index : RoleIndex} {uses : List IndexUse} {scope : String}

theorem contains_actAll (alike : ∀ use ∈ uses, use.index.shared = index.shared) (s : Session) :
    (index.part.get (actAll uses s)).contains scope =
      heldAfter scope ((index.part.get s).contains scope) (events uses s) := by
  induction uses generalizing s with
  | nil => rfl
  | cons use uses inductionHypothesis =>
    obtain ⟨here, there⟩ := List.forall_mem_cons.mp alike
    have step := use.holds_event s scope
    simp only [entries, RoleIndex.part_of_shared here] at step
    have rest := inductionHypothesis there (use.act s).2
    rw [step] at rest
    exact rest

theorem missing_of_events (alike : ∀ use ∈ uses, use.index.shared = index.shared) {s : Session}
    {before after : List IndexEvent} {succeeded : Bool}
    (seen : events uses s = before ++ .drained scope succeeded :: after) :
    heldAfter scope ((index.part.get s).contains scope) before = false := by
  -- On the uses, each of which is seen as one event.
  induction uses generalizing s before with
  | nil => simp [events] at seen
  | cons use uses inductionHypothesis =>
    obtain ⟨here, there⟩ := List.forall_mem_cons.mp alike
    cases before with
    | nil =>
      have missing := missing_of_event (List.cons.inj seen).1
      rwa [entries, RoleIndex.part_of_shared here] at missing
    | cons event before =>
      obtain ⟨first, others⟩ := List.cons.inj seen
      have step := use.holds_event s scope
      simp only [entries, RoleIndex.part_of_shared here, first] at step
      have rest := inductionHypothesis there others
      rw [step] at rest
      exact rest

theorem actAll_of_own (own : ∀ use ∈ uses, use.index.shared = false) (s : Session) :
    (actAll uses s).objects.roleAssignments = s.objects.roleAssignments := by
  induction uses generalizing s with
  | nil => rfl
  | cons use uses inductionHypothesis =>
    obtain ⟨here, there⟩ := List.forall_mem_cons.mp own
    exact (inductionHypothesis there (use.act s).2).trans (use.act_of_own here s)

end IndexUse

/-- Where no scope is drained while it is held, one that is held stays so until it is forgotten. -/
theorem forgotten_of_held {scope : String} {held succeeded : Bool}
    {events before between after : List IndexEvent}
    (fresh : ∀ before after succeeded, events = before ++ .drained scope succeeded :: after →
      heldAfter scope held before = false)
    (holds : heldAfter scope held before = true)
    (seen : events = before ++ (between ++ .drained scope succeeded :: after)) :
    .forgotten scope ∈ between := by
  induction between generalizing before with
  | nil =>
    rw [fresh before after succeeded seen] at holds
    cases holds
  | cons event between inductionHypothesis =>
    have next (stays : event.holds scope true = true) : .forgotten scope ∈ event :: between := by
      refine List.mem_cons_of_mem event (@inductionHypothesis (before ++ [event]) ?_ (by simp [seen]))
      rw [heldAfter, List.foldl_append]
      exact (congrArg (event.holds scope) holds).trans stays
    cases event with
    | drained other ended =>
      by_cases here : other = scope
      · subst here
        rw [fresh before _ ended seen] at holds
        cases holds
      · exact next (by simp [IndexEvent.holds, here])
    | forgotten other =>
      by_cases here : other = scope
      · simp [here]
      · exact next (by simp [IndexEvent.holds, here])
    | answered => exact next rfl

theorem IndexUse.drainedOnce {index : RoleIndex} {uses : List IndexUse}
    (alike : ∀ use ∈ uses, use.index.shared = index.shared) (s : Session) :
    DrainedOnce (events uses s) := by
  intro scope before between after succeeded seen
  have fresh (front back : List IndexEvent) (ended : Bool)
      (split : events uses s = front ++ .drained scope ended :: back) :
      heldAfter scope ((index.part.get s).contains scope) front = false :=
    missing_of_events alike split
  have holds : heldAfter scope ((index.part.get s).contains scope)
      (before ++ [.drained scope true]) = true := by
    simp [heldAfter, IndexEvent.holds]
  have split : events uses s =
      before ++ [.drained scope true] ++ (between ++ .drained scope succeeded :: after) := by
    simp [seen]
  exact forgotten_of_held fresh holds split

/-- Indexes that were made over a cache of objects when it held something share its entries.
Whatever they are used for, the scopes with an entry are those that were last drained with success
and not forgotten since, and a scope is drained once until it is forgotten.  An index that was made
over an empty cache leaves the entries of the cache as they are and does the same with entries of
its own.  Every connector has one of the latter. -/
theorem index_entries_held (world : World) (uses : List IndexUse) (s : Session) :
    ((∀ use ∈ uses, ∃ limit cache, cache.size ≠ 0 ∧
        use.index = RoleIndex.onCache world limit cache) →
      (∀ scope, (IndexUse.actAll uses s).objects.roleAssignments.contains scope =
        heldAfter scope (s.objects.roleAssignments.contains scope) (IndexUse.events uses s)) ∧
      DrainedOnce (IndexUse.events uses s)) ∧
    (∀ limit, (∀ use ∈ uses, use.index = RoleIndex.onCache world limit .empty) →
      (IndexUse.actAll uses s).objects.roleAssignments = s.objects.roleAssignments ∧
      (∀ scope, (IndexUse.actAll uses s).assignments.contains scope =
        heldAfter scope (s.assignments.contains scope) (IndexUse.events uses s)) ∧
      DrainedOnce (IndexUse.events uses s)) ∧
    ∀ limit config hasCredential c, Connector.ofConfig world limit config hasCredential = .ok c →
      c.index = RoleIndex.onCache world limit .empty := by
  refine ⟨fun made => ?_, fun limit made => ?_, fun limit config hasCredential c created => ?_⟩
  · have alike : ∀ use ∈ uses, use.index.shared = (⟨world, 0, true⟩ : RoleIndex).shared := by
      intro use member
      obtain ⟨limit, cache, holds, same⟩ := made use member
      simpa [same, RoleIndex.onCache] using holds
    exact ⟨fun scope => IndexUse.contains_actAll alike s, IndexUse.drainedOnce alike s⟩
  · have alike : ∀ use ∈ uses, use.index.shared = (RoleIndex.onCache world limit .empty).shared :=
      fun use member => by rw [made use member]
    exact ⟨IndexUse.actAll_of_own alike s, fun scope => IndexUse.contains_actAll alike s,
      IndexUse.drainedOnce alike s⟩
  · obtain ⟨_, -, created⟩ := exists_of_bind_eq_ok created
    obtain ⟨_, -, created⟩ := exists_of_bind_eq_ok created
    cases created
    rfl

/-- Objects among which there is a principal only. -/
def principalOnly : ObjectCache :=
  { ObjectCache.empty with principals := Cache.empty.insert "u1" .user }

/-- Two indexes over a cache that holds a principal, which are asked in turn, and an index over an
empty one. -/
theorem index_entries_held_sub1 :
    let s : Session := { Session.new with objects := principalOnly }
    let index := RoleIndex.onCache Catalog.provisionedWorld 5 principalOnly
    let another := RoleIndex.onCache Catalog.provisionedWorld 7 principalOnly
    let uses : List IndexUse := [⟨index, "sub1", none, some .byRole⟩,
      ⟨another, "sub1", some "", some (.representative "reader")⟩, ⟨another, "sub1", none, none⟩,
      ⟨index, "sub1", none, some .roles⟩]
    let alone := RoleIndex.onCache Catalog.provisionedWorld 5 .empty
    let asked : List IndexUse := [⟨alone, "sub1", none, some .byRole⟩]
    IndexUse.events uses s = [.drained "/subscriptions/sub1" true, .answered,
        .forgotten "/subscriptions/sub1", .drained "/subscriptions/sub1" true] ∧
      (IndexUse.actAll uses s).objects.roleAssignments.contains "/subscriptions/sub1" = true ∧
      (IndexUse.actAll asked s).objects.roleAssignments = s.objects.roleAssignments ∧
      (IndexUse.actAll asked s).assignments.contains "/subscriptions/sub1" = true := by
  intro s index another uses alone asked
  have seen : IndexUse.events uses s = [.drained "/subscriptions/sub1" true, .answered,
      .forgotten "/subscriptions/sub1", .drained "/subscriptions/sub1" true] := by
    decide +kernel
  have seenAlone : IndexUse.events asked s = [.drained "/subscriptions/sub1" true] := by
    decide +kernel
  have made : ∀ use ∈ uses, ∃ limit cache, cache.size ≠ 0 ∧
      use.index = RoleIndex.onCache Catalog.provisionedWorld limit cache := by
    simp only [uses, List.forall_mem_cons]
    exact ⟨⟨5, principalOnly, by decide, rfl⟩, ⟨7, principalOnly, by decide, rfl⟩,
      ⟨7, principalOnly, by decide, rfl⟩, ⟨5, principalOnly, by decide, rfl⟩, by simp⟩
  obtain ⟨sharing, -⟩ := index_entries_held Catalog.provisionedWorld uses s
  obtain ⟨-, own, -⟩ := index_entries_held Catalog.provisionedWorld asked s
  obtain ⟨same, held, -⟩ := own 5 (by simp [asked, alone])
  refine ⟨seen, ?_, same, ?_⟩
  · rw [(sharing made).1, seen]
    rfl
  · rw [held, seenAlone]
    rfl

/-- The index of a connector has drained a subscription, and the objects of the connector have no
entry for it. -/
theorem exists_drain_unshared :
    ∃ c, Connector.ofConfig Catalog.provisionedWorld 5 (.mapping []) true = .ok c ∧
      let uses : List IndexUse := [⟨c.index, "sub1", none, some .byRole⟩]
      IndexUse.events uses Session.new = [.drained "/subscriptions/sub1" true] ∧
        (IndexUse.actAll uses Session.new).objects.roleAssignments.contains
          "/subscriptions/sub1" = false := by
  obtain ⟨c, created, outcomes⟩ := Option.map_eq_some_iff.mp
    (show ((Connector.ofConfig Catalog.provisionedWorld 5 (.mapping []) true).toOption.map fun c =>
        let uses : List IndexUse := [⟨c.index, "sub1", none, some .byRole⟩]
        (IndexUse.events uses Session.new,
          (IndexUse.actAll uses Session.new).objects.roleAssignments.contains
            "/subscriptions/sub1")) = some ([.drained "/subscriptions/sub1" true], false) by
      decide +kernel)
  simp only [Prod.mk.injEq] at outcomes
  exact ⟨c, eq_ok_of_toOption created, outcomes⟩

end AccessSync
