import AccessSync.Management.Client
import AccessSync.Proofs.Returns

/-!
# Errors of the client library

The library that speaks to the management service raises an error in place of an answer, or while
the items of a page are produced.  An errand during which it does ends with what the error stands
for, wherever in a listing of many pages that is.  Only errors that come with an answer of the
service stand for failures; the others leave as the library raised them.
-/

namespace AccessSync.Management

/-! ## Errands -/

/-- What the management client does for its callers, by the kind of value that it returns. -/
inductive Errand : Type → Type 1 where
  | subscriptions (token : Option String) : Errand (Page Value)
  | tenants (token : Option String) : Errand (Page Value)
  | resourceGroups (subscription : String) (token : Option String) : Errand (Page Value)
  | storageAccounts (subscription : String) (token : Option String) : Errand (Page Value)
  | containers (account : String) (token : Option String) : Errand (Page Value)
  | roleDefinitions (subscription : String) (token : Option String) : Errand (Page RoleDefinition)
  | roleAssignments (subscription scope : String) (token : Option String) :
      Errand (Page RoleAssignment)
  /-- All role assignments at a scope, for somebody who takes them in one by one. -/
  | allRoleAssignments {α : Type} (subscription scope : String) (limit : Nat)
      (take : α → RoleAssignment → Except Stop α) (start : α) : Errand α
  | roleDefinition (path : String) : Errand RoleDefinition
  | createAssignment (subscription scope roleDefinitionId principal : String) :
      Errand (Option RoleAssignment)
  | deleteAssignment (subscription scope name : String) : Errand Unit

namespace Errand

variable {α : Type}

def run (world : World) : Errand α → Act α
  | .subscriptions token => Management.subscriptions world token
  | .tenants token => Management.tenants world token
  | .resourceGroups subscription token => Management.resourceGroups world subscription token
  | .storageAccounts subscription token => Management.storageAccounts world subscription token
  | .containers account token => Management.containers world account token
  | .roleDefinitions subscription token => Management.roleDefinitions world subscription token
  | .roleAssignments subscription scope token =>
    Management.roleAssignments world subscription scope token
  | .allRoleAssignments subscription scope limit take start =>
    foldRoleAssignments world subscription scope
      (fun acc a => MonadExcept.ofExcept (take acc a)) limit none start
  | .roleDefinition path => Management.roleDefinition world path
  | .createAssignment subscription scope roleDefinitionId principal =>
    Management.createAssignment world subscription scope roleDefinitionId principal
  | .deleteAssignment subscription scope name =>
    Management.deleteAssignment world subscription scope name

def operation : Errand α → String
  | .subscriptions _ => "subscriptions.list"
  | .tenants _ => "tenants.list"
  | .resourceGroups subscription _ => s!"resource_groups.list({subscription})"
  | .storageAccounts subscription _ => s!"storage_accounts.list({subscription})"
  | .containers account _ => s!"list_containers({account})"
  | .roleDefinitions subscription _ => s!"role_definitions.list(/subscriptions/{subscription})"
  | .roleAssignments _ scope _ => s!"role_assignments.list_for_scope({scope})"
  | .allRoleAssignments _ scope _ _ _ => s!"role_assignments.list_for_scope({scope})"
  | .roleDefinition path => s!"role_definitions.get_by_id({path})"
  | .createAssignment _ scope _ _ => s!"role_assignments.create({scope})"
  | .deleteAssignment _ scope name => s!"role_assignments.delete({scope}, {name})"

def IsCreation : Errand α → Prop
  | .createAssignment .. => True
  | _ => False

end Errand

/-! ## Errors that are raised -/

/-- The item is one that the listing is read from. -/
def Readable (item : Value) : Listing → Prop
  | .containers _ => ∃ fields, containerFields item = .ok fields
  | .roleDefinitions _ => ∃ definition, RoleDefinition.ofValue item = .ok definition
  | .roleAssignments _ => ∃ assignment, RoleAssignment.ofValue item = .ok assignment
  | _ => True

/-- The library raises the error at the latest call. -/
inductive Raises (world : World) (e : ServiceError) : List Call → Prop where
  | page {before : List Call} {listing : Listing} {token : Option String}
      (answer : world.answer before (.listPage listing token) = .error e) :
      Raises world e (.listPage listing token :: before)
  /-- The items before the error have been produced and read. -/
  | item {before : List Call} {listing : Listing} {token next : Option String} {items : List Value}
      (answer : world.answer before (.listPage listing token) = .ok ⟨items, next, some e⟩)
      (read : ∀ item ∈ items, Readable item listing) :
      Raises world e (.listPage listing token :: before)
  | operation {before : List Call} {operation : Operation}
      (answer : world.answer before (.operate operation) = .error e) :
      Raises world e (.operate operation :: before)

/-- The library raises the error at a call that is made on the way from one session to another. -/
def RaisedBetween (world : World) (s t : Session) (e : ServiceError) : Prop :=
  ∃ calls, calls <:+ t.history ∧ s.history.length < calls.length ∧ Raises world e calls

/-! ## What errors stand for -/

def refusal (operation : String) (e : ServiceError) (kind : RequestFaultKind)
    (status : Option Int) : Stop :=
  .fault (.failure { cause := .request ⟨kind, s!"{operation}: {e.message}", status, operation⟩ })

/-- The error comes with an answer of the service, and is none of those known by their kind. -/
def Refused (e : ServiceError) : Prop := e.kind = .httpResponse ∨ e.kind = .resourceExists

/-- How an operation ends at which the library raises the error. -/
inductive StandsFor (operation : String) (e : ServiceError) : Stop → Prop where
  | notFound (kind : e.kind = .resourceNotFound) :
      StandsFor operation e (refusal operation e .notFound (some 404))
  | unauthenticated (kind : e.kind = .authentication) :
      StandsFor operation e (refusal operation e .unauthorized e.status)
  | unauthorized (refused : Refused e) (status : e.status = some 401 ∨ e.status = some 403) :
      StandsFor operation e (refusal operation e .unauthorized e.status)
  | rateLimited (refused : Refused e) (status : e.status = some 429 ∨ e.status = some 504) :
      StandsFor operation e
        (refusal operation e (.rateLimited (Directory.retryAfter e.retryAfter)) e.status)
  | other (refused : Refused e)
      (status : e.status ∉ [some 401, some 403, some 429, some 504]) :
      StandsFor operation e (refusal operation e .other e.status)
  /-- An error without an answer of the service is passed on. -/
  | unanswered (kind : e.kind ∈ [.serviceRequest, .general, .foreign]) :
      StandsFor operation e (.fault (.defect (.service e)))

/-- How an errand ends during which the library raises the error. -/
inductive Reported : {α : Type} → Errand α → ServiceError → Except Stop α → Prop where
  /-- A role that is assigned already need not be assigned. -/
  | existing {subscription scope roleDefinitionId principal : String} {e : ServiceError}
      (kind : e.kind = .resourceExists) :
      Reported (.createAssignment subscription scope roleDefinitionId principal) e (.ok none)
  | stopped {α : Type} {errand : Errand α} {e : ServiceError} {stop : Stop}
      (unexpected : errand.IsCreation → e.kind ≠ .resourceExists)
      (stands : StandsFor errand.operation e stop) : Reported errand e (.error stop)

theorem standsFor_kindOfStatus (operation : String) {e : ServiceError} (refused : Refused e) :
    StandsFor operation e (refusal operation e (kindOfStatus e) e.status) := by
  unfold kindOfStatus
  split
  next status known =>
    split
    next retry => exact .rateLimited refused (by simpa [known] using retry)
    next retry =>
      split
      next denied => exact .unauthorized refused (by simpa [known] using denied)
      next denied => exact .other refused (by simp_all)
  next known => exact .other refused (by simp [known])

/-- The outcome is a stop that the error stands for. -/
def Stops {α : Type} (operation : String) (e : ServiceError) (outcome : Except Stop α) : Prop :=
  ∃ stop, StandsFor operation e stop ∧ outcome = .error stop

/-- What is raised for an error is what the error stands for. -/
theorem refuse_stops {α : Type} (operation : String) (e : ServiceError) (s : Session) :
    Stops operation e ((refuse operation e : Act α) s).1 := by
  unfold refuse failureOf?
  cases kind : e.kind with
  | resourceNotFound => exact ⟨_, .notFound kind, rfl⟩
  | authentication => exact ⟨_, .unauthenticated kind, rfl⟩
  | httpResponse => exact ⟨_, standsFor_kindOfStatus operation (.inl kind), rfl⟩
  | resourceExists => exact ⟨_, standsFor_kindOfStatus operation (.inr kind), rfl⟩
  | serviceRequest => exact ⟨_, .unanswered (by simp [kind]), rfl⟩
  | general => exact ⟨_, .unanswered (by simp [kind]), rfl⟩
  | foreign => exact ⟨_, .unanswered (by simp [kind]), rfl⟩

/-- What the error stands for is raised for it. -/
theorem refuse_of_standsFor {α : Type} {e : ServiceError} {operation : String} {stop : Stop}
    (stands : StandsFor operation e stop) (s : Session) :
    (refuse operation e : Act α) s = (.error stop, s) := by
  have refused {status : Option Int} {kind : RequestFaultKind} (known : Refused e)
      (same : kindOfStatus e = kind ∧ e.status = status) :
      (refuse operation e : Act α) s = (.error (refusal operation e kind status), s) := by
    obtain ⟨rfl, rfl⟩ := same
    unfold refuse failureOf?
    obtain kind | kind := known <;> rw [kind] <;> rfl
  -- By what is known of the error: its kind, or its status where the kind does not decide.
  cases stands with
  | notFound kind | unauthenticated kind =>
    unfold refuse failureOf?
    rw [kind]
    rfl
  | unauthorized known status =>
    refine refused known ⟨?_, rfl⟩
    obtain status | status := status <;> simp [kindOfStatus, status]
  | rateLimited known status =>
    refine refused known ⟨?_, rfl⟩
    obtain status | status := status <;> simp [kindOfStatus, status]
  | other known status =>
    refine refused known ⟨?_, rfl⟩
    cases given : e.status with
    | none => simp [kindOfStatus, given]
    | some n =>
      simp only [given, List.mem_cons, Option.some.injEq, List.not_mem_nil, or_false, not_or]
        at status
      simp [kindOfStatus, given, status]
  | unanswered kind =>
    unfold refuse failureOf?
    simp only [List.mem_cons, List.not_mem_nil, or_false] at kind
    obtain kind | kind | kind := kind <;> rw [kind] <;> rfl

/-! ## Runs that report -/

/-- The run makes calls, and once the library raises an error at one of them, the run ends with an
outcome that goes with the error. -/
def Reports {α : Type} (world : World) (Q : ServiceError → Except Stop α → Prop) (run : Act α) :
    Prop :=
  ∀ s, s.history <:+ (run s).2.history ∧
    ∀ e, RaisedBetween world s (run s).2 e → Q e (run s).1

variable {world : World} {α β : Type} {operation : String}

namespace Reports

variable {Q : ServiceError → Except Stop α → Prop}

/-- Where no call is made, nothing is raised. -/
theorem still {run : Act α} (same : ∀ s, (run s).2.history = s.history) : Reports world Q run := by
  refine fun s => ⟨same s ▸ List.suffix_rfl, ?_⟩
  rintro e ⟨calls, made, later, -⟩
  rw [same s] at made
  exact absurd made.length_le (by omega)

theorem pure (a : α) : Reports world Q (Pure.pure a) := still fun _ => rfl

theorem throw (stop : Stop) : Reports world Q (MonadExcept.throw stop : Act α) := still fun _ => rfl

theorem reading (result : Except Misuse α) : Reports world Q (Run.reading result) := by
  cases result with
  | ok a => exact pure a
  | error misuse => exact throw _

theorem ofExcept (result : Except Stop α) : Reports world Q (MonadExcept.ofExcept result) := by
  cases result with
  | ok a => exact pure a
  | error stop => exact throw stop

theorem refuse (operation : String) (e : ServiceError) :
    Reports world Q (Management.refuse operation e) := by
  unfold Management.refuse
  split
  next => exact throw _
  next => exact throw _

theorem modify {f : Session → Session} (same : ∀ s, (f s).history = s.history)
    {Q : ServiceError → Except Stop Unit → Prop} :
    Reports world Q (MonadState.modifyGet fun s => ((), f s)) := still same

theorem read {next : Session → Act α} (each : ∀ s, Reports world Q (next s)) :
    Reports world Q (MonadState.get >>= next) :=
  fun s => each s s

/-- What is raised at a call is for the run after it to report. -/
theorem call {c : Call} {next : c.Answer → Act α}
    (raised : ∀ before e, Raises world e (c :: before) →
      ∀ t, Q e (next (world.answer before c) t).1)
    (others : ∀ answer, Reports world Q (next answer)) :
    Reports world Q (Act.call world c >>= next) := by
  intro s
  have asked : Act.call world c s =
    (.ok (world.answer s.history c), { s with history := c :: s.history }) := rfl
  rw [Run.bind_of_ok asked]
  obtain ⟨grows, reports⟩ := others (world.answer s.history c)
    { s with history := c :: s.history }
  refine ⟨(List.suffix_cons c s.history).trans grows, ?_⟩
  rintro e ⟨calls, made, later, raises⟩
  obtain first | after := Nat.lt_or_ge (s.history.length + 1) calls.length
  · exact reports e ⟨calls, made, first, raises⟩
  · -- As many calls as there were then and one more: the error is raised at this one.
    have here : calls = c :: s.history :=
      (List.suffix_of_suffix_length_le made grows (by simpa using after)).eq_of_length
        (by simp; omega)
    subst here
    exact raised s.history e raises _

/-- If what is raised in the first part ends the run there, each part reports what is raised in
it. -/
theorem bind_of {first : Act α} {next : α → Act β} {Q₁ : ServiceError → Except Stop α → Prop}
    {Q : ServiceError → Except Stop β → Prop} (here : Reports world Q₁ first)
    (stops : ∀ e outcome, Q₁ e outcome → ∃ stop, outcome = .error stop ∧ Q e (.error stop))
    (others : ∀ a, Reports world Q (next a)) : Reports world Q (first >>= next) := by
  intro s
  obtain ⟨grows, reports⟩ := here s
  match outcome : first s with
  | (.error stop, u) =>
    rw [Run.bind_of_error outcome]
    rw [outcome] at grows reports
    refine ⟨grows, fun e raised => ?_⟩
    obtain ⟨stop, same, reported⟩ := stops e _ (reports e raised)
    cases same
    exact reported
  | (.ok a, u) =>
    rw [Run.bind_of_ok outcome]
    rw [outcome] at grows reports
    obtain ⟨growsNext, reportsNext⟩ := others a u
    refine ⟨grows.trans growsNext, ?_⟩
    rintro e ⟨calls, made, later, raises⟩
    obtain second | first := Nat.lt_or_ge u.history.length calls.length
    · exact reportsNext e ⟨calls, made, second, raises⟩
    · have early := List.suffix_of_suffix_length_le made growsNext first
      obtain ⟨_, returned, -⟩ := stops e _ (reports e ⟨calls, early, later, raises⟩)
      cases returned

theorem bind {first : Act α} {next : α → Act β} (here : Reports world (Stops operation) first)
    (others : ∀ a, Reports world (Stops operation) (next a)) :
    Reports world (Stops operation) (first >>= next) :=
  here.bind_of (fun _ _ ⟨stop, stands, same⟩ => ⟨stop, same, stop, stands, rfl⟩) others

/-- Nothing is raised in the first part. -/
theorem bind_quiet {first : Act α} {next : α → Act β} {Q : ServiceError → Except Stop β → Prop}
    (here : Reports world (fun _ _ => False) first) (others : ∀ a, Reports world Q (next a)) :
    Reports world Q (first >>= next) :=
  here.bind_of (fun _ _ impossible => impossible.elim) others

theorem foldlM {f : β → α → Act β} {list : List α}
    (each : ∀ b a, Reports world (Stops operation) (f b a)) (start : β) :
    Reports world (Stops operation) (list.foldlM f start) := by
  induction list generalizing start with
  | nil => exact pure start
  | cons a list inductionHypothesis =>
    rw [List.foldlM_cons]
    exact (each start a).bind inductionHypothesis

end Reports

/-! ## Operations -/

/-- Opening a client raises nothing. -/
theorem reports_withClient (client : ManagementClient)
    {Q : ServiceError → Except Stop Unit → Prop} : Reports world Q (withClient world client) := by
  refine Reports.read fun s => ?_
  split
  next =>
    refine Reports.call (fun before e raises => nomatch raises) fun _ => ?_
    exact Reports.modify fun _ => rfl
  next => exact Reports.pure ()

theorem reports_listPage {ρ : Type} {listing : Listing} {convert : Value → Except Misuse ρ}
    (reads : ∀ item, Readable item listing → ∃ record, convert item = .ok record)
    (operation : String) (token : Option String) :
    Reports world (Stops operation) (listPage world operation listing token convert) := by
  refine Reports.call ?_ ?_
  · intro before e raises t
    cases raises with
    | page answer =>
      simp only [answer]
      exact refuse_stops operation e t
    | item answer read =>
      obtain ⟨records, found⟩ :=
        exists_mapM_of_forall fun item member => reads item (read item member)
      simp only [answer, found]
      exact refuse_stops operation e t
  · intro answer
    cases answer with
    | error e => exact Reports.refuse operation e
    | ok page =>
      refine (Reports.reading _).bind fun records => ?_
      split
      next => exact Reports.refuse operation _
      next => exact Reports.pure _

/-- A page that is listed by the client of a subscription. -/
theorem reports_clientPage {ρ : Type} {listing : Listing} {convert : Value → Except Misuse ρ}
    (reads : ∀ item, Readable item listing → ∃ record, convert item = .ok record)
    (client : ManagementClient) (operation : String) (token : Option String) :
    Reports world (Stops operation) (do
      withClient world client
      listPage world operation listing token convert) :=
  (reports_withClient client).bind fun _ => reports_listPage reads operation token

theorem reports_roleAssignments (subscription scope : String) (token : Option String) :
    Reports world (Stops s!"role_assignments.list_for_scope({scope})")
      (roleAssignments world subscription scope token) :=
  reports_clientPage (fun _ => id) _ _ token

/-- An error ends a fold over all pages, whichever page it is raised at. -/
theorem reports_foldRoleAssignments {step : β → RoleAssignment → Act β} {scope : String}
    (each : ∀ acc a,
      Reports world (Stops s!"role_assignments.list_for_scope({scope})") (step acc a))
    (subscription : String) (limit : Nat) (token : Option String) (acc : β) :
    Reports world (Stops s!"role_assignments.list_for_scope({scope})")
      (foldRoleAssignments world subscription scope step limit token acc) := by
  induction limit generalizing token acc with
  | zero => exact Reports.throw _
  | succ limit inductionHypothesis =>
    refine (reports_roleAssignments subscription scope token).bind fun page => ?_
    refine (Reports.foldlM each acc).bind fun acc => ?_
    split
    next => exact Reports.pure acc
    next next _ => exact inductionHypothesis (some next) acc

/-- A single operation after which an error is refused. -/
theorem reports_operation {name : String} {asked : Operation}
    {after : Except ServiceError Value → Act α} (refused : ∀ e, after (.error e) = refuse name e)
    (others : ∀ record, Reports world (Stops name) (after (.ok record))) :
    Reports world (Stops name) (Act.call world (.operate asked) >>= after) := by
  refine Reports.call ?_ fun answer => ?_
  · intro before e raises t
    cases raises with
    | operation answer =>
      simp only [answer, refused]
      exact refuse_stops _ e t
  · cases answer with
    | error e => exact refused e ▸ Reports.refuse _ e
    | ok record => exact others record

theorem reports_roleDefinition (path : String) :
    Reports world (Stops s!"role_definitions.get_by_id({path})") (roleDefinition world path) :=
  (reports_withClient _).bind fun _ => reports_operation (fun _ => rfl) fun _ => Reports.reading _

theorem reports_deleteAssignment (subscription scope name : String) :
    Reports world (Stops s!"role_assignments.delete({scope}, {name})")
      (deleteAssignment world subscription scope name) :=
  (reports_withClient _).bind fun _ => reports_operation (fun _ => rfl) fun _ => Reports.pure ()

/-- An error that says that the role is assigned already ends the creation like a success. -/
theorem reports_createAssignment (subscription scope roleDefinitionId principal : String) :
    Reports world (Reported (.createAssignment subscription scope roleDefinitionId principal))
      (createAssignment world subscription scope roleDefinitionId principal) := by
  refine Reports.call (fun before e raises => nomatch raises) fun name => ?_
  refine (reports_withClient _).bind_quiet fun _ => Reports.call ?_ fun answer => ?_
  · intro before e raises t
    cases raises with
    | operation answer =>
      simp only [answer]
      split
      next existing => exact .existing existing
      next existing =>
        obtain ⟨stop, stands, stops⟩ := refuse_stops (α := Option RoleAssignment) _ e t
        rw [stops]
        exact .stopped (fun _ => existing) stands
  · cases answer with
    | error e =>
      dsimp only
      split
      next => exact (Reports.still fun _ => rfl).bind_quiet fun _ => Reports.pure none
      next => exact Reports.refuse _ e
    | ok record => exact (Reports.reading _).bind_quiet fun _ => Reports.pure _

theorem Reports.reported {errand : Errand α} {run : Act α}
    (reports : Reports world (Stops errand.operation) run) (unlike : ¬ errand.IsCreation) :
    Reports world (Reported errand) run := by
  refine fun s => ⟨(reports s).1, fun e raised => ?_⟩
  obtain ⟨stop, stands, same⟩ := (reports s).2 e raised
  rw [same]
  exact .stopped (fun creation => absurd creation unlike) stands

/-- An errand during which the library raises an error ends with what the error stands for,
whichever of its calls the error is raised at. -/
theorem errand_reports (world : World) (errand : Errand α) (s : Session) {e : ServiceError}
    (raised : RaisedBetween world s (errand.run world s).2 e) :
    Reported errand e (errand.run world s).1 := by
  suffices reports : Reports world (Reported errand) (errand.run world) from
    (reports s).2 e raised
  -- Every errand is one call after its client is open, except for the fold over all pages.
  cases errand with
  | subscriptions token =>
    exact (reports_clientPage (fun item _ => ⟨item, rfl⟩) _ _ token).reported id
  | tenants token =>
    exact (reports_clientPage (fun item _ => ⟨item, rfl⟩) _ _ token).reported id
  | resourceGroups subscription token =>
    exact (reports_clientPage (fun item _ => ⟨item, rfl⟩) _ _ token).reported id
  | storageAccounts subscription token =>
    exact (reports_clientPage (fun item _ => ⟨item, rfl⟩) _ _ token).reported id
  | containers account token =>
    refine Reports.reported (Reports.call ?_ fun _ => reports_listPage (fun _ => id) _ token) id
    exact fun before e raises => nomatch raises
  | roleDefinitions subscription token =>
    exact (reports_clientPage (fun _ => id) _ _ token).reported id
  | roleAssignments subscription scope token =>
    exact (reports_roleAssignments subscription scope token).reported id
  | allRoleAssignments subscription scope limit take start =>
    exact (reports_foldRoleAssignments (fun _ _ => Reports.ofExcept _) subscription limit none
      start).reported id
  | roleDefinition path => exact (reports_roleDefinition path).reported id
  | createAssignment subscription scope roleDefinitionId principal =>
    exact reports_createAssignment subscription scope roleDefinitionId principal
  | deleteAssignment subscription scope name =>
    exact (reports_deleteAssignment subscription scope name).reported id

def throttled : ServiceError := ⟨.httpResponse, "slow down", some 429, some (.text "7")⟩

def unreachable : ServiceError := ⟨.serviceRequest, "no route to host", none, none⟩

/-- A service that breaks off its second pages after an item, and is not reached by operations. -/
def faultyWorld : World where
  answer _
    | .request _ => .error ⟨.connection, "no route to host"⟩
    | .clientToken .. => .error (.transport "no route to host")
    | .credentialToken _ => .error unreachable
    | .openClient _ => ()
    | .listPage _ none => .ok ⟨[.record []], some "second", none⟩
    | .listPage _ (some _) => .ok ⟨[.record []], some "third", some throttled⟩
    | .operate _ => .error unreachable
    | .freshName => ""
    | .sleep _ => .ok ()
    | .clock => (0 : Int)
  cancels _ _ := false

/-- The role assignments of a subscription, in a list. -/
def assignmentsErrand : Errand (List RoleAssignment) :=
  .allRoleAssignments "sub1" "/subscriptions/sub1" 3 (fun acc a => .ok (acc ++ [a])) []

theorem errand_reports_throttled :
    RaisedBetween faultyWorld .new (assignmentsErrand.run faultyWorld .new).2 throttled ∧
      Reported assignmentsErrand throttled (assignmentsErrand.run faultyWorld .new).1 := by
  have raised : RaisedBetween faultyWorld .new (assignmentsErrand.run faultyWorld .new).2
      throttled := by
    refine ⟨[.listPage (.roleAssignments "/subscriptions/sub1") (some "second"),
      .listPage (.roleAssignments "/subscriptions/sub1") none,
      .openClient (.authorization "sub1")], ⟨[], rfl⟩, by decide, .item rfl fun item member => ?_⟩
    rw [List.mem_singleton.mp member]
    exact ⟨_, rfl⟩
  exact ⟨raised, errand_reports faultyWorld assignmentsErrand .new raised⟩

/-- The library raises an error of its own, and the role definition asked for comes to neither a
value nor a failure. -/
theorem exists_error_unreported :
    RaisedBetween faultyWorld .new
        ((Errand.roleDefinition "/subscriptions/sub1/reader").run faultyWorld .new).2 unreachable ∧
      unreachable.kind ≠ .foreign ∧
      ((Errand.roleDefinition "/subscriptions/sub1/reader").run faultyWorld .new).1 =
        .error (.fault (.defect (.service unreachable))) := by
  refine ⟨⟨[.operate (.roleDefinition "/subscriptions/sub1/reader"),
    .openClient (.authorization "sub1")], ⟨[], ?_⟩, by decide, .operation rfl⟩, by decide, ?_⟩
  · rfl
  · rfl

end AccessSync.Management
