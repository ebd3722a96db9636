import AccessSync.Proofs.Catalog.Agreement
import AccessSync.Proofs.Catalog.RoleRecords
import AccessSync.Proofs.Directory.Stateless

/-!
# What workers share

The workers of a sync share one connector: its tokens, its clients and the objects that it keeps.
Where the services answer by the request alone, all of that is a function of what was asked for, and
it does not matter which worker asked first.  What a worker has for itself are the drops of its own
component; the applications have their records and the organizations besides.
-/

namespace AccessSync

/-! ## What is kept -/

/-- Whatever is kept is what a new session would be given in its place. -/
structure Coherent (c : Connector) (s : Session) : Prop where
  tokens : ∀ key held, s.tokens.get? key = some held →
    (Directory.token c.world c.directory Directory.defaultScopes Session.new).1 = .ok held.token
  principals : ∀ id kept, s.objects.principals.get? id = some kept →
    (Directory.askEndpoints c.world c.directory id false Directory.lookupEndpoints Session.new).1 =
      .ok kept
  definitions : ∀ key kept, s.objects.roleDefinitions.get? key = some kept →
    ∀ path, Text.lower path = key →
      (Management.roleDefinition c.world path Session.new).1 = .ok kept
  entries : ∀ scope kept, (c.index.part.get s).get? scope = some kept →
    ∀ subscription, (c.index.build subscription scope Session.new).1 = .ok kept

/-- What workers keep together. -/
def Session.shared (s : Session) :=
  (s.tokens, s.objects.principals, s.objects.roleDefinitions, s.objects.roleAssignments,
    s.assignments)

/-- What the worker on a kind of resource has for itself, and the signal that it looks at. -/
structure Belongings where
  cancelled : Bool
  tally : DropTally
  records : Cache String Value
  organizations : Option (List String)

/-- The belongings of the workers. Only the applications have more than a tally. -/
def Session.own (s : Session) (type : ResourceType) : Belongings where
  cancelled := s.cancelled
  tally := s.tallies type
  records := if type = .enterpriseApplication then s.objects.servicePrincipals else .empty
  organizations := if type = .enterpriseApplication then s.organizations else none

/-- Coherent sessions in which the belongings of each worker are related. -/
structure Kin (c : Connector) (rel : ResourceType → Belongings → Belongings → Prop)
    (s t : Session) : Prop where
  first : Coherent c s
  second : Coherent c t
  own : ∀ type, rel type (s.own type) (t.own type)

/-- A coherent session with the given belongings. -/
def Stays (c : Connector) (own : ResourceType → Belongings) (s : Session) : Prop :=
  Coherent c s ∧ s.own = own

variable {c : Connector} {s t s' t' : Session} {own : ResourceType → Belongings}
  {rel : ResourceType → Belongings → Belongings → Prop}

theorem Coherent.new (c : Connector) : Coherent c Session.new where
  tokens _ _ kept := by cases kept
  principals _ _ kept := by cases kept
  definitions _ _ kept := by cases kept
  entries _ _ kept := by
    have empty : c.index.part.get Session.new = .empty := by
      unfold RoleIndex.part
      split <;> rfl
    rw [empty] at kept
    cases kept

theorem Coherent.entries_of_same (coherent : Coherent c s)
    (shared : s.objects.roleAssignments = t.objects.roleAssignments)
    (own : s.assignments = t.assignments) :
    ∀ scope kept, (c.index.part.get t).get? scope = some kept →
      ∀ subscription, (c.index.build subscription scope Session.new).1 = .ok kept :=
  c.index.part_get_congr shared own ▸ coherent.entries

theorem Coherent.of_same (coherent : Coherent c s) (same : s.shared = t.shared) : Coherent c t := by
  simp only [Session.shared, Prod.mk.injEq] at same
  obtain ⟨tokens, principals, definitions, entries, assignments⟩ := same
  refine ⟨?_, ?_, ?_, coherent.entries_of_same entries assignments⟩
  · exact tokens ▸ coherent.tokens
  · exact principals ▸ coherent.principals
  · exact definitions ▸ coherent.definitions

theorem Kin.of_same (kin : Kin c rel s t) (first : s.shared = s'.shared)
    (second : t.shared = t'.shared) (mine : s.own = s'.own) (other : t.own = t'.own) :
    Kin c rel s' t' :=
  ⟨kin.first.of_same first, kin.second.of_same second, mine ▸ other ▸ kin.own⟩

theorem Stays.of_same (stays : Stays c own s) (shared : s.shared = t.shared)
    (mine : s.own = t.own) : Stays c own t :=
  ⟨stays.1.of_same shared, mine ▸ stays.2⟩

/-! ### What is taken up -/

namespace Stays

variable (stays : Stays c own s)

include stays

theorem holdToken {token : Value} (issued :
    (Directory.token c.world c.directory Directory.defaultScopes Session.new).1 = .ok token)
    (account : Account) (expires : Int) :
    Stays c own (Session.tokenPart.set (s.tokens.insert account ⟨token, expires⟩) s) := by
  refine ⟨{ stays.1 with tokens := ?_, entries := ?_ }, stays.2⟩
  · exact Cache.forall_insert stays.1.tokens issued
  · exact stays.1.entries_of_same rfl rfl

theorem holdPrincipal {id : String} {principal : Principal}
    (found : (Directory.askEndpoints c.world c.directory id false Directory.lookupEndpoints
      Session.new).1 = .ok principal) :
    Stays c own (Session.principalPart.set (s.objects.principals.insert id principal) s) := by
  refine ⟨{ stays.1 with principals := ?_, entries := ?_ }, stays.2⟩
  · exact Cache.forall_insert stays.1.principals found
  · exact stays.1.entries_of_same rfl rfl

theorem holdDefinition {key : String} {definition : RoleDefinition}
    (found : ∀ path, Text.lower path = key →
      (Management.roleDefinition c.world path Session.new).1 = .ok definition) :
    Stays c own
      (Session.roleDefinitionPart.set (s.objects.roleDefinitions.insert key definition) s) := by
  refine ⟨{ stays.1 with definitions := ?_, entries := ?_ }, stays.2⟩
  · exact Cache.forall_insert stays.1.definitions found
  · exact stays.1.entries_of_same rfl rfl

theorem holdEntry {scope : String} {entry : AssignmentsByRole}
    (built : ∀ subscription, (c.index.build subscription scope Session.new).1 = .ok entry) :
    Stays c own (c.index.part.set ((c.index.part.get s).insert scope entry) s) := by
  have entries := Cache.forall_insert stays.1.entries built
  obtain ⟨coherent, rfl⟩ := stays
  rw [← c.index.part_get_set ((c.index.part.get s).insert scope entry) s] at entries
  -- Wherever the index keeps its entries, the other parts are as they were.
  refine ⟨⟨?_, ?_, ?_, entries⟩, ?_⟩ <;> unfold RoleIndex.part <;> split
  next => exact coherent.tokens
  next => exact coherent.tokens
  next => exact coherent.principals
  next => exact coherent.principals
  next => exact coherent.definitions
  next => exact coherent.definitions
  next => rfl
  next => rfl

end Stays

/-! ## Runs that use what is shared -/

section Runs

variable {α : Type}

/-- Runs with one outcome from all coherent sessions, which leave the belongings alone, do not part
kin. -/
theorem agree_of_ends {run twin : Act α} {outcome : Except Stop α}
    (ends : ∀ own, Ends (Stays c own) run outcome)
    (likewise : ∀ own, Ends (Stays c own) twin outcome) : Agree (Kin c rel) run twin := by
  intro s t kin
  obtain ⟨first, after, mine⟩ := ends s.own s ⟨kin.first, rfl⟩
  obtain ⟨second, afterwards, others⟩ := likewise t.own t ⟨kin.second, rfl⟩
  exact ⟨first.trans second.symm, after, afterwards, mine ▸ others ▸ kin.own⟩

/-- A run that agrees whatever becomes of the belongings has the outcome that it has in a new
session, or that its twin has there. -/
theorem ends_of_agree {run twin : Act α} (agree : ∀ rel, Agree (Kin c rel) run twin) :
    Ends (Stays c own) run (twin Session.new).1 := by
  intro s stays
  -- The relation may say anything of the belongings; here it says what the first session has.
  have kin : Kin c (fun type mine _ => mine = own type) s Session.new :=
    ⟨stays.1, Coherent.new c, fun type => congrFun stays.2 type⟩
  obtain ⟨same, after⟩ := agree _ s Session.new kin
  exact ⟨same, after.first, funext after.own⟩

end Runs

/-- The connector works on its world, which answers by the request and does not cancel. -/
structure Steady (c : Connector) : Prop where
  stateless : c.world.Stateless
  quiet : ∀ looks history, c.world.cancels looks history = false
  index : c.index.world = c.world

/-- The connector works on its world, which answers by the request. -/
structure Unchanging (c : Connector) : Prop where
  memoryless : c.world.Memoryless
  index : c.index.world = c.world

theorem Steady.unchanging (steady : Steady c) : Unchanging c :=
  ⟨steady.stateless.memoryless, steady.index⟩

section Shared

variable (unchanging : Unchanging c)

include unchanging

/-! ### Calls -/

theorem agrees_call {call : Call} (timeless : call.isTimeless = true) :
    Agrees (Kin c rel) (Act.call c.world call) := by
  intro s t kin
  have answer := unchanging.memoryless.answer call timeless
  exact ⟨congrArg Except.ok ((answer s.history).trans (answer t.history).symm),
    kin.of_same rfl rfl rfl rfl⟩

omit unchanging in
theorem silent_kin : Silent (Kin c rel) := fun _ _ _ kin => kin.of_same rfl rfl rfl rfl

omit unchanging in
theorem unaffected_stays : Unaffected (Stays c own) where
  listed _ _ _ stays := stays.of_same rfl rfl
  opened _ _ stays := stays.of_same rfl rfl
  recorded _ _ stays := stays.of_same rfl rfl

omit unchanging in
/-- A client may be open in one session and not in the other. -/
theorem agree_withClient (client other : ManagementClient) :
    Agree (Kin c rel) (Management.withClient c.world client)
      (Management.withClient c.world other) :=
  agree_of_ends (fun _ => Management.ends_withClient unaffected_stays c.world client)
    fun _ => Management.ends_withClient unaffected_stays c.world other

theorem managed_kin : Management.Connected (Kin c rel) c.world where
  page _ _ := agrees_call unchanging rfl
  client client := agree_withClient client client
  blobs _ := agrees_call unchanging rfl
  silent := silent_kin

/-! ### Tokens and principals -/

theorem ends_token : Ends (Stays c own)
    (Directory.token c.world c.directory Directory.defaultScopes)
    (Directory.token c.world c.directory Directory.defaultScopes Session.new).1 := by
  obtain ⟨outcome, ends⟩ :=
    Directory.uniform_token unchanging.memoryless c.directory Directory.defaultScopes
  -- A new session holds no token, so what all come to is the outcome there.
  have new : (Directory.token c.world c.directory Directory.defaultScopes Session.new).1 =
      outcome := by
    refine (ends (fun s => ∀ key held, s.tokens.get? key = some held → outcome = .ok held.token)
      ?_ [] Session.new fun _ _ kept => by cases kept).1
    exact {
      called := fun _ _ holds => holds
      recorded := fun _ _ holds => holds
      held := fun _ key held holds => holds key held
      taken := fun _ _ _ _ holds issued => Cache.forall_insert holds issued }
  rw [new]
  refine ends (Stays c own) ?_ []
  exact {
    called := fun _ _ stays => stays.of_same rfl rfl
    recorded := fun _ _ stays => stays.of_same rfl rfl
    held := fun _ key held stays kept => new ▸ stays.1.tokens key held kept
    taken := fun _ key _ expires stays issued => stays.holdToken (new.trans issued) key expires }

theorem connected_kin : Directory.Connected (Kin c rel) c.world c.directory where
  token := agree_of_ends (fun _ => ends_token unchanging) fun _ => ends_token unchanging
  request _ := agrees_call unchanging rfl
  sleep _ := agrees_call unchanging rfl
  silent := silent_kin

theorem ends_principal (id : String) : Ends (Stays c own) (c.principal id)
    (Directory.askEndpoints c.world c.directory id false Directory.lookupEndpoints
      Session.new).1 := by
  have asked : Ends (Stays c own) (Directory.askEndpoints c.world c.directory id false
      Directory.lookupEndpoints) _ :=
    ends_of_agree fun _ => Directory.agrees_askEndpoints (connected_kin unchanging) id false _
  intro s stays
  -- What is known is what would be found; what is found is taken up, unless it is nothing.
  have looked : Cache.lookup Session.principalPart id s =
      (.ok (s.objects.principals.get? id), s) := rfl
  simp only [Connector.principal, Directory.resolve, if_true]
  rw [Run.bind_of_ok looked]
  cases known : s.objects.principals.get? id with
  | some principal =>
    rw [stays.1.principals id principal known]
    exact ⟨rfl, stays⟩
  | none =>
    simp only
    cases found : (Directory.askEndpoints c.world c.directory id false Directory.lookupEndpoints
        Session.new).1 with
    | error stop => exact (found ▸ asked).bind_stops _ s stays
    | ok principal =>
      refine (found ▸ asked).bind ?_ s stays
      split
      next =>
        exact Ends.bind (Ends.modify fun t after => after.holdPrincipal found) (Ends.pure principal)
      next => exact Ends.pure principal

/-! ### Index entries -/

theorem ends_index (subscription : String) (scope : Option String) :
    Ends (Stays c own) (c.index.assignmentsByRole subscription scope)
      (c.index.build subscription (RoleIndex.scopeOr subscription scope) Session.new).1 := by
  -- The subscription chooses the client only, so an entry is good for all subscriptions.
  have built (other scope : String) : ∀ own, Ends (Stays c own) (c.index.build other scope)
      (c.index.build subscription scope Session.new).1 := fun own => by
    refine ends_of_agree fun rel => RoleIndex.agree_build ?_ ?_ scope
    · exact unchanging.index ▸ managed_kin unchanging
    · exact unchanging.index ▸ agree_withClient _ _
  refine Act.ends_cached (fun s stays _ => ?_)
    (fun s kept stays known => stays.1.entries _ kept known subscription)
    fun _ _ stays => stays.of_same rfl rfl
  obtain ⟨t, answered, after⟩ := (built subscription _ own).returns stays
  refine ⟨t, answered, ?_⟩
  cases found : (c.index.build subscription (RoleIndex.scopeOr subscription scope)
      Session.new).1 with
  | ok entry =>
    refine after.holdEntry fun other => ?_
    exact (built other _ Session.new.own Session.new ⟨Coherent.new c, rfl⟩).1.trans found
  | error stop => exact after

/-! ### Role definitions -/

theorem agrees_roleDefinition (path : String) :
    Agrees (Kin c rel) (Management.roleDefinition c.world path) :=
  Management.agrees_roleDefinition (managed_kin unchanging) (agrees_call unchanging rfl)

end Shared

section Definitions

variable (steady : Steady c)

include steady

/-- A definition that is found under one spelling of its path is found under the others. -/
theorem roleDefinition_letters {path other : String} (same : Text.lower path = Text.lower other)
    {definition : RoleDefinition}
    (found : (Management.roleDefinition c.world path Session.new).1 = .ok definition) :
    (Management.roleDefinition c.world other Session.new).1 = .ok definition := by
  have returned : Management.roleDefinition c.world path Session.new = (.ok definition, _) :=
    Prod.ext found rfl
  obtain ⟨_, opened, -, returned⟩ := Run.exists_of_bind returned
  obtain ⟨answer, t, asked, returned⟩ := Run.exists_of_bind returned
  have answered : c.world.answer [] (.operate (.roleDefinition path)) = answer := by
    rw [← steady.stateless.answer _ rfl opened.history]
    exact Except.ok.inj (congrArg Prod.fst asked)
  cases answer with
  | error e =>
    exact absurd (congrArg Prod.fst returned) (Management.refuse_ne_ok _ e t definition)
  | ok record =>
    have read : RoleDefinition.ofValue record = .ok definition := by
      cases parsed : RoleDefinition.ofValue record with
      | error misuse =>
        simp only [parsed] at returned
        cases returned
      | ok value =>
        simp only [parsed] at returned
        cases returned
        rfl
    -- The other path may go by another client, but the service says the same of both.
    have likewise : Ends (Stays c Session.new.own) (Management.roleDefinition c.world other)
        (.ok definition) := by
      refine (Management.ends_withClient unaffected_stays c.world _).bind ?_
      have memoryless := steady.unchanging.memoryless
      refine (memoryless.ends_call rfl fun _ stays => stays.of_same rfl rfl).bind ?_
      rw [← steady.stateless.letters path other same, answered]
      exact Ends.reading read
    exact (likewise Session.new ⟨Coherent.new c, rfl⟩).1

theorem ends_roleDefinition (path : String) :
    Ends (Stays c own) (Catalog.Storage.roleDefinition c path)
      (Management.roleDefinition c.world path Session.new).1 := by
  have asked : Ends (Stays c own) (Management.roleDefinition c.world path) _ :=
    ends_of_agree fun _ => agrees_roleDefinition steady.unchanging path
  -- The key is the path in lower case, so an entry is good for all paths of its key.
  refine Act.ends_cached (fun s stays _ => ?_)
    (fun s kept stays known => stays.1.definitions _ kept known path rfl)
    fun _ _ stays => stays.of_same rfl rfl
  obtain ⟨t, answered, after⟩ := asked.returns stays
  refine ⟨t, answered, ?_⟩
  cases found : (Management.roleDefinition c.world path Session.new).1 with
  | ok definition =>
    exact after.holdDefinition fun other same => roleDefinition_letters steady same.symm found
  | error stop => exact after

end Definitions

/-! ## Work on a kind of resource -/

/-- The run has to do with one kind of resource: it agrees in coherent sessions that are alike in
the belongings of its worker, and keeps the others alike as far as they are. -/
def Confined (c : Connector) (type : ResourceType) {α : Type} (run : Act α) : Prop :=
  ∀ rel, rel type = Eq → Agrees (Kin c rel) run

namespace Session

variable (s : Session) (type : ResourceType)

theorem own_tally (tally : DropTally) : ((tallyPart type).set tally s).own =
    fun other => if other = type then { s.own other with tally } else s.own other := by
  funext other
  by_cases same : other = type <;> simp [own, tallyPart, same]

theorem own_records (records : Cache String Value) : (servicePrincipalPart.set records s).own =
    fun other => if other = .enterpriseApplication then { s.own other with records }
      else s.own other := by
  funext other
  by_cases same : other = .enterpriseApplication <;> simp [own, servicePrincipalPart, same]

theorem own_organizations (organizations : Option (List String)) :
    { s with organizations }.own =
      fun other => if other = .enterpriseApplication then { s.own other with organizations }
        else s.own other := by
  funext other
  by_cases same : other = .enterpriseApplication <;> simp [own, same]

end Session

theorem Kin.same {type : ResourceType} (kin : Kin c rel s t) (alike : rel type = Eq) :
    s.own type = t.own type := by
  have same := kin.own type
  rwa [alike] at same

/-- Kin may change in the belongings of one worker, as long as it is in the same way. -/
theorem Kin.change {type : ResourceType} (kin : Kin c rel s t) (alike : rel type = Eq)
    (first : s.shared = s'.shared) (second : t.shared = t'.shared) (f : Belongings → Belongings)
    (mine : s'.own = fun other => if other = type then f (s.own other) else s.own other)
    (others : t'.own = fun other => if other = type then f (t.own other) else t.own other) :
    Kin c rel s' t' := by
  refine ⟨kin.first.of_same first, kin.second.of_same second, fun other => ?_⟩
  have before := kin.own other
  rw [mine, others]
  by_cases same : other = type
  · subst same
    rw [alike] at before ⊢
    simp only [if_true, before]
  · simpa only [if_neg same] using before

section Work

variable (steady : Steady c)

include steady

/-- Workers with the same belongings see the same signal. -/
theorem attuned_kin {type : ResourceType} (alike : rel type = Eq) :
    Enumeration.Attuned (Kin c rel) c.context c.context where
  look s t kin := by
    have unsigned (s : Session) :
        (s.cancelled || c.world.cancels s.looks s.history) = s.cancelled := by
      rw [steady.quiet, Bool.or_false]
    refine ⟨?_, kin.of_same rfl rfl ?_ ?_⟩
    · exact (unsigned s).trans ((congrArg Belongings.cancelled (kin.same alike)).trans
        (unsigned t).symm)
    · exact congrArg (fun cancelled => { s with cancelled }.own) (unsigned s).symm
    · exact congrArg (fun cancelled => { t with cancelled }.own) (unsigned t).symm
  record := silent_kin

theorem confined_record (id : String) :
    Confined c .enterpriseApplication (Catalog.Application.record c id) := by
  intro rel alike
  refine Act.agrees_cached (fun s t kin => ?_) (fun records s t kin => ?_) silent_kin ?_
  · exact congrArg Belongings.records (kin.same alike)
  · exact kin.change alike rfl rfl (fun mine => { mine with records }) (s.own_records records)
      (t.own_records records)
  · refine (Directory.agrees_query (connected_kin steady.unchanging) _ _ _).bind fun _ => ?_
    exact Agree.pure _

theorem confined_organizationIds : Confined c .enterpriseApplication c.organizationIds := by
  intro rel alike
  refine Connector.agrees_organizationIds (connected_kin steady.unchanging) (fun s t kin => ?_)
    fun organizations s t kin => ?_
  · exact congrArg Belongings.organizations (kin.same alike)
  · exact kin.change alike rfl rfl (fun mine => { mine with organizations })
      (s.own_organizations organizations) (t.own_organizations organizations)

omit steady in
theorem confined_takeUp (organizations : List String) (parent : Option ResourceId)
    (record : Value) : Confined c .enterpriseApplication
      (Catalog.Application.takeUp organizations parent record) := by
  intro rel alike
  have stored (id : String) :
      Agrees (Kin c rel) (Cache.store Session.servicePrincipalPart id record) := by
    refine Directory.agrees_store (fun s t kin => ?_) (fun records s t kin => ?_) id record
    · exact congrArg Belongings.records (kin.same alike)
    · exact kin.change alike rfl rfl (fun mine => { mine with records }) (s.own_records records)
        (t.own_records records)
  refine (Agree.reading _).bind fun owned => ?_
  split
  next =>
    refine (Agree.reading _).bind fun id => (stored id).bind fun _ => ?_
    exact (Agree.reading _).bind fun _ => Agree.pure _
  next => exact Agree.pure _

theorem confined_applications (parent : Option ResourceId) (text : String) :
    Confined c .enterpriseApplication (Catalog.Application.list c c.context parent text) := by
  intro rel alike
  refine (confined_organizationIds steady rel alike).bind fun organizations => ?_
  refine Enumeration.agrees_step (attuned_kin steady alike) ?_ ?_ text
  · simp only [List.forall_mem_cons]
    exact ⟨fun _ => (Directory.agrees_fetchPage (connected_kin steady.unchanging) _).bind
      fun _ => Agree.reading _, by simp⟩
  · simp only [List.forall_mem_cons]
    exact ⟨fun records => Agree.filterMap fun record _ =>
      confined_takeUp organizations parent record rel alike, by simp⟩

/-- Kin with the same belongings of a worker are companions in its work. -/
theorem companions_kin {type : ResourceType} (alike : rel type = Eq) :
    Companions (Kin c rel) c type where
  attuned := attuned_kin steady alike
  directory := connected_kin steady.unchanging
  management := managed_kin steady.unchanging
  principal id := agree_of_ends (fun _ => ends_principal steady.unchanging id)
    fun _ => ends_principal steady.unchanging id
  index subscription scope :=
    agree_of_ends (fun _ => ends_index steady.unchanging subscription scope)
      fun _ => ends_index steady.unchanging subscription scope
  definition path := agree_of_ends (fun _ => ends_roleDefinition steady path)
    fun _ => ends_roleDefinition steady path
  settle verdict := by
    refine Connector.agrees_settle silent_kin (fun s t kin => ?_) (fun tally s t kin => ?_) verdict
    · exact congrArg Belongings.tally (kin.same alike)
    · exact kin.change alike rfl rfl (fun mine => { mine with tally }) (s.own_tally type tally)
        (t.own_tally type tally)
  applications application parent text := by
    subst application
    exact confined_applications steady parent text rel alike
  record application id := by
    subst application
    exact confined_record steady id rel alike

end Work

/-! ### What confinement means -/

namespace Confined

variable {type : ResourceType} {α : Type} {run : Act α} (confined : Confined c type run)

include confined

/-- The outcome and what its worker has afterwards depend on what the worker has before, and on
nothing else. -/
theorem same (coherent : Coherent c s) (likewise : Coherent c t) (same : s.own type = t.own type) :
    (run s).1 = (run t).1 ∧ (run s).2.own type = (run t).2.own type := by
  -- Nothing is asked of the other workers.
  let rel (other : ResourceType) : Belongings → Belongings → Prop :=
    if other = type then Eq else fun _ _ => True
  have alike : rel type = Eq := if_pos rfl
  have kin : Kin c rel s t := by
    refine ⟨coherent, likewise, fun other => ?_⟩
    by_cases own : other = type
    · subst own
      exact alike ▸ same
    · simp only [rel, if_neg own]
  obtain ⟨outcome, after⟩ := confined rel alike s t kin
  exact ⟨outcome, after.same alike⟩

theorem coherent (coherent : Coherent c s) : Coherent c (run s).2 :=
  (confined (fun _ => Eq) rfl s s ⟨coherent, coherent, fun _ => rfl⟩).2.first

/-- Other workers have what they had. -/
theorem frame (coherent : Coherent c s) (other : ResourceType) (different : other ≠ type) :
    (run s).2.own other = s.own other := by
  -- The session is its own kin by what the others have, and a confined run keeps it so.
  let rel (kind : ResourceType) : Belongings → Belongings → Prop :=
    if kind = type then Eq else fun mine _ => mine = s.own kind
  have kin : Kin c rel s s := by
    refine ⟨coherent, coherent, fun kind => ?_⟩
    by_cases own : kind = type
    · simp only [rel, if_pos own]
    · simp only [rel, if_neg own]
  have after := (confined rel (if_pos rfl) s s kin).2.own other
  simpa only [rel, if_neg different] using after

end Confined

end AccessSync
