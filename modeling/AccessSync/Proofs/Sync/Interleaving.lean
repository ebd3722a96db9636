import AccessSync.Proofs.Returns
import AccessSync.Sync.Waves

/-!
# Interleaved workers

The workers of a wave and of the access phase run side by side: each makes its calls in order, but
nothing says whose call is next.  A worker is a `Task` here, which shows the calls that are still to
be made, and a schedule says whose turn it is.  What is left when the schedule ends is done worker
by worker, so with an empty schedule the workers take their turns as in `run`.
-/

namespace AccessSync.Sync

/-! ## Tasks -/

/-- A call that a worker makes of the component of its kind, or a report. -/
inductive PageCall where
  | list (parent : Option ResourceId) (cursor : String)
  | entitlements (resource : Resource)
  | grants (resource : Resource) (cursor : String)
  | report (message : String)

/-- What a call returns: a page comes with the cursor of the next one. -/
def PageCall.Answer : PageCall → Type
  | .list .. => List Resource × String
  | .entitlements _ => List Entitlement
  | .grants .. => List Grant × String
  | .report _ => Unit

/-- What a worker has still to do: the next call, and how it goes on after it. -/
inductive Task (α : Type) where
  | done (a : α)
  | stop (reason : Stop)
  | ask (call : PageCall) (next : call.Answer → Task α)

variable {α β ι : Type}

namespace Task

def bind : Task α → (α → Task β) → Task β
  | .done a, next => next a
  | .stop reason, _ => .stop reason
  | .ask call further, next => .ask call fun answer => (further answer).bind next

instance : Monad Task where
  pure := .done
  bind := bind

def call (call : PageCall) : Task call.Answer := .ask call .done

/-- The items of a paged call from a cursor on. -/
def drainFrom (page : String → Task (List ι × String)) : (limit : Nat) → String → Task (List ι)
  | 0, _ => .stop .unfinished
  | limit + 1, cursor => do
    let (items, next) ← page cursor
    if next.isEmpty then return items
    return items ++ (← drainFrom page limit next)

def listUnder (limit : Nat) : List (Option ResourceId) → Task (List Resource)
  | [] => pure []
  | parent :: rest => do
    let found ← drainFrom (fun cursor => call (.list parent cursor)) limit ""
    return found ++ (← listUnder limit rest)

def listType (limit : Nat) (resources : List (ResourceType × List Resource))
    (type : ResourceType) : Task (List Resource) := do
  let found ← listUnder limit (parents resources type)
  .ask (.report ("Listed " ++ toString found.length ++ " " ++ type.name ++ " resources"))
    fun _ => return found

def accessTo (limit : Nat) : List Resource → Task Access
  | [] => pure ([], [])
  | resource :: rest => .ask (.entitlements resource) fun (entitlements : List Entitlement) => do
    let grants ← drainFrom (fun cursor => call (.grants resource cursor)) limit ""
    let others ← accessTo limit rest
    return (entitlements ++ others.1, grants ++ others.2)

def accessOfType (limit : Nat) (resources : List (ResourceType × List Resource))
    (type : ResourceType) : Task Access := do
  let access ← accessTo limit (listed resources type)
  .ask (.report ("Collected " ++ toString access.1.length ++ " entitlements and " ++
    toString access.2.length ++ " grants for " ++ type.name)) fun _ => return access

end Task

/-! ## Tasks as runs -/

variable (c : Connector) (type : ResourceType)

/-- Makes a call for the worker on a kind of resource. -/
def perform : (call : PageCall) → Act call.Answer
  | .list parent cursor => Catalog.list c type c.context parent cursor
  | .entitlements resource => Catalog.entitlements c type resource
  | .grants resource cursor => Catalog.grants c type c.context resource cursor
  | .report message => Run.log .info component message

namespace Task

def run : Task α → Act α
  | .done a => pure a
  | .stop reason => throw reason
  | .ask call next => do
    let answer ← perform c type call
    (next answer).run

theorem run_call (call : PageCall) : (Task.call call).run c type = perform c type call :=
  bind_pure _

theorem run_bind (task : Task α) (next : α → Task β) :
    (task >>= next).run c type = task.run c type >>= fun a => (next a).run c type := by
  -- The binds of the task move inwards over its calls, those of the run associate.
  induction task with
  | done a => rfl
  | stop reason => rfl
  | ask call further inductionHypothesis =>
    change (do let answer ← perform c type call; ((further answer).bind next).run c type) =
      (do let answer ← perform c type call; (further answer).run c type) >>= _
    rw [bind_assoc]
    exact bind_congr inductionHypothesis

theorem run_drainFrom {page : String → Task (List ι × String)}
    {operation : String → Act (List ι × String)}
    (pages : ∀ cursor, (page cursor).run c type = operation cursor) (limit : Nat)
    (cursor : String) : (drainFrom page limit cursor).run c type =
      Enumeration.drainFrom operation limit cursor := by
  -- On the pages that may still be read, for all cursors.
  induction limit generalizing cursor with
  | zero => rfl
  | succ limit inductionHypothesis =>
    rw [drainFrom, run_bind, pages, Enumeration.drainFrom]
    refine bind_congr fun result => ?_
    simp only
    split
    next => rfl
    next => rw [run_bind, inductionHypothesis]; rfl

theorem run_listUnder (parents : List (Option ResourceId)) :
    (listUnder c.limit parents).run c type = Sync.listUnder c type parents := by
  induction parents with
  | nil => rfl
  | cons parent rest inductionHypothesis =>
    have drained := run_drainFrom c type (fun cursor => run_call c type (.list parent cursor))
      c.limit ""
    rw [listUnder, run_bind, drained, Sync.listUnder]
    refine bind_congr fun found => ?_
    rw [run_bind, inductionHypothesis]
    rfl

theorem run_listType (resources : List (ResourceType × List Resource)) :
    (listType c.limit resources type).run c type = Sync.listType c resources type := by
  rw [listType, run_bind, run_listUnder, Sync.listType]
  rfl

theorem run_accessTo (resources : List Resource) :
    (accessTo c.limit resources).run c type = Sync.accessTo c type resources := by
  induction resources with
  | nil => rfl
  | cons resource rest inductionHypothesis =>
    have drained := run_drainFrom c type (fun cursor => run_call c type (.grants resource cursor))
      c.limit ""
    rw [Sync.accessTo]
    refine bind_congr fun entitlements => ?_
    rw [run_bind, drained]
    refine bind_congr fun grants => ?_
    rw [run_bind, inductionHypothesis]
    rfl

theorem run_accessOfType (resources : List (ResourceType × List Resource)) :
    (accessOfType c.limit resources type).run c type = Sync.accessOfType c resources type := by
  rw [accessOfType, run_bind, run_accessTo, Sync.accessOfType]
  rfl

end Task

/-! ## Workers side by side -/

/-- The workers: what each has still to do, or why it ended without a result. -/
abbrev Pool (α : Type) := List (ResourceType × Except SyncStop (Task α))

def Pool.start (types : List ResourceType) (task : ResourceType → Task α) : Pool α :=
  types.map fun type => (type, .ok (task type))

/-- The next call of a worker. A worker that is done makes none. -/
def advance : Task α → StateM Session (Except SyncStop (Task α))
  | .done a => pure (.ok (.done a))
  | .stop reason => attempt type (throw reason)
  | .ask call next => attempt type do return next (← perform c type call)

/-- The turn of the worker at a position; where there is none, nothing happens. -/
def turn : Nat → Pool α → StateM Session (Pool α)
  | _, [] => pure []
  | 0, (type, .ok task) :: rest => do return (type, ← advance c type task) :: rest
  | 0, worker :: rest => pure (worker :: rest)
  | n + 1, worker :: rest => do return worker :: (← turn n rest)

def follow : List Nat → Pool α → StateM Session (Pool α)
  | [], pool => pure pool
  | n :: rest, pool => do follow rest (← turn c n pool)

/-- Lets the workers finish one after the other. -/
def finish : Pool α → StateM Session (List (ResourceType × Except SyncStop α))
  | [] => pure []
  | (type, .ok task) :: rest => do
    let outcome ← attempt type (task.run c type)
    return (type, outcome) :: (← finish rest)
  | (type, .error stop) :: rest => do return (type, .error stop) :: (← finish rest)

/-- The results of workers that take turns by a schedule. -/
def interleave (schedule : List Nat) (types : List ResourceType) (task : ResourceType → Task α) :
    SyncRun (List (ResourceType × α)) := fun s =>
  let (pool, t) := follow c schedule (.start types task) s
  let (outcomes, u) := finish c pool t
  let (cancelled, v) := c.context.isCancelled u
  (collect cancelled none outcomes, v)

/-! ### What workers come to -/

variable {c} in
/-- A turn changes the work of one worker at most. -/
theorem turn_cases (n : Nat) (pool : Pool α) (s : Session) :
    turn c n pool s = (pool, s) ∨
      ∃ before type task after, pool = before ++ (type, .ok task) :: after ∧
        turn c n pool s = (before ++ (type, (advance c type task s).1) :: after,
          (advance c type task s).2) := by
  induction pool generalizing n with
  | nil => exact .inl (by cases n <;> rfl)
  | cons worker rest inductionHypothesis =>
    cases n with
    | zero =>
      match worker with
      | (type, .ok task) => exact .inr ⟨[], type, task, rest, rfl, rfl⟩
      | (type, .error reason) => exact .inl rfl
    | succ n =>
      have turned : turn c (n + 1) (worker :: rest) s =
          (worker :: (turn c n rest s).1, (turn c n rest s).2) := by
        rw [turn]
        rfl
      obtain same | ⟨before, type, task, after, rfl, moved⟩ := inductionHypothesis n
      · exact .inl (by rw [turned, same])
      · exact .inr ⟨worker :: before, type, task, after, rfl, by rw [turned, moved]; rfl⟩

section Kept

variable {c} {s : Session}

/-- What each turn keeps, a schedule keeps. -/
theorem follow_keeps {P : Pool α → Session → Prop}
    (each : ∀ n pool s, P pool s → P (turn c n pool s).1 (turn c n pool s).2)
    (schedule : List Nat) {pool : Pool α} (holds : P pool s) :
    P (follow c schedule pool s).1 (follow c schedule pool s).2 := by
  induction schedule generalizing pool s with
  | nil => exact holds
  | cons n rest inductionHypothesis => exact inductionHypothesis (each n pool s holds)

/-- Some worker ended without a result. -/
def Broken {ω : Type} (pool : List (ResourceType × Except SyncStop ω)) : Prop :=
  ∃ type reason, (type, .error reason) ∈ pool

theorem broken_turn {n : Nat} {pool : Pool α} (broken : Broken pool) :
    Broken (turn c n pool s).1 := by
  obtain ⟨type, reason, member⟩ := broken
  obtain same | ⟨before, kind, task, after, rfl, turned⟩ := turn_cases (c := c) n pool s
  · exact same ▸ ⟨type, reason, member⟩
  · rw [turned]
    refine ⟨type, reason, ?_⟩
    simp only [List.mem_append, List.mem_cons] at member ⊢
    obtain earlier | here | later := member
    · exact .inl earlier
    · cases here
    · exact .inr (.inr later)

theorem broken_follow (schedule : List Nat) {pool : Pool α} (broken : Broken pool) :
    Broken (follow c schedule pool s).1 :=
  follow_keeps (P := fun pool _ => Broken pool) (fun _ _ _ => broken_turn) schedule broken

theorem finish_cons (type : ResourceType) (task : Task α) (rest : Pool α) :
    finish c ((type, .ok task) :: rest) s =
      ((type, (attempt type (task.run c type) s).1) ::
        (finish c rest (attempt type (task.run c type) s).2).1,
        (finish c rest (attempt type (task.run c type) s).2).2) := rfl

theorem broken_finish {pool : Pool α} (broken : Broken pool) : Broken (finish c pool s).1 := by
  obtain ⟨type, reason, member⟩ := broken
  refine ⟨type, reason, ?_⟩
  induction pool generalizing s with
  | nil => cases member
  | cons worker rest inductionHypothesis =>
    match worker with
    | (first, .ok task) =>
      obtain here | later := List.mem_cons.mp member
      · cases here
      · exact List.mem_cons_of_mem _ (inductionHypothesis later)
    | (first, .error stop) =>
      obtain here | later := List.mem_cons.mp member
      · cases here
        exact List.mem_cons_self
      · exact List.mem_cons_of_mem _ (inductionHypothesis later)

theorem kinds_turn (n : Nat) (pool : Pool α) :
    (turn c n pool s).1.map Prod.fst = pool.map Prod.fst := by
  obtain same | ⟨before, type, task, after, rfl, turned⟩ := turn_cases (c := c) n pool s
  · rw [same]
  · rw [turned]
    simp

theorem kinds_follow (schedule : List Nat) (pool : Pool α) :
    (follow c schedule pool s).1.map Prod.fst = pool.map Prod.fst :=
  follow_keeps (P := fun later _ => later.map Prod.fst = pool.map Prod.fst)
    (fun n later _ same => (kinds_turn n later).trans same) schedule rfl

theorem kinds_finish (pool : Pool α) : (finish c pool s).1.map Prod.fst = pool.map Prod.fst := by
  induction pool generalizing s with
  | nil => rfl
  | cons worker rest inductionHypothesis =>
    match worker with
    | (type, .ok task) => exact congrArg (type :: ·) inductionHypothesis
    | (type, .error stop) => exact congrArg (type :: ·) inductionHypothesis

end Kept

/-- The outcomes of workers that take turns by a schedule, before they are collected. -/
def outcomes (schedule : List Nat) (types : List ResourceType)
    (task : ResourceType → Task α) : StateM Session (List (ResourceType × Except SyncStop α)) := do
  finish c (← follow c schedule (.start types task))

variable {c} in
theorem interleave_outcomes (schedule : List Nat) (types : List ResourceType)
    (task : ResourceType → Task α) (s : Session) : interleave c schedule types task s =
      (collect (c.context.isCancelled (outcomes c schedule types task s).2).1 none
        (outcomes c schedule types task s).1,
        (c.context.isCancelled (outcomes c schedule types task s).2).2) := rfl

variable {c} in
theorem kinds_outcomes (schedule : List Nat) (types : List ResourceType)
    (task : ResourceType → Task α) (s : Session) :
    (outcomes c schedule types task s).1.map Prod.fst = types := by
  have started : (Pool.start types task).map Prod.fst = types := by
    simp [Pool.start, Function.comp_def]
  exact (kinds_finish _).trans ((kinds_follow _ _).trans started)

/-! ## Interleaved syncs -/

/-- A schedule for each wave, and one for the access phase. -/
structure Schedule where
  waves : List (List Nat)
  access : List Nat

/-- Lists the kinds wave by wave, after those listed so far. -/
def listWavesIn : List (List ResourceType) → List (List Nat) →
    List (ResourceType × List Resource) → SyncRun (List (ResourceType × List Resource))
  | [], _, resources => pure resources
  | wave :: rest, schedules, resources => do
    let found ← interleave c (schedules.headD []) wave (Task.listType c.limit resources)
    listWavesIn rest schedules.tail (resources ++ found)

/-- Runs a sync whose workers take turns by a schedule. -/
def runIn (schedule : Schedule) (workers : Int) : SyncRun SyncDocument := do
  let started ← lift (now c)
  if workers < 1 then lift (Run.defect (.misuse .badContent))
  let resources ← listWavesIn c waves schedule.waves []
  let access ← interleave c schedule.access (resources.map Prod.fst)
    (Task.accessOfType c.limit resources)
  let elapsed := Float.ofInt ((← lift (now c)) - started)
  let document : SyncDocument :=
    { metadata := c.metadata, resources, access, drops := drops (← get).tallies, elapsed }
  lift (report document)
  return document

variable {c} in
theorem runIn_no_workers (schedule : Schedule) {workers : Int} (none : workers < 1) (s : Session) :
    ∃ reason t, runIn c schedule workers s = (.error reason, t) := by
  have started : lift (now c) s = (.ok _, (now c s).2) := rfl
  have refused (t : Session) : lift (Run.defect (.misuse .badContent) : Act Unit) t =
      (.error (.stopped (.fault (.defect (.misuse .badContent)))), t) := rfl
  rw [runIn, Run.bind_of_ok started]
  simp only [if_pos none]
  exact ⟨_, _, Run.bind_of_error (refused _)⟩

/-! ### Without a schedule -/

theorem finish_start (types : List ResourceType) (task : ResourceType → Task α) :
    finish c (.start types task) = attemptAll (fun type => (task type).run c type) types := by
  induction types with
  | nil => rfl
  | cons type rest inductionHypothesis =>
    change (do let outcome ← attempt type ((task type).run c type)
               return (type, outcome) :: (← finish c (.start rest task))) = _
    rw [inductionHypothesis]
    rfl

theorem interleave_nil (types : List ResourceType) {task : ResourceType → Task α}
    {work : ResourceType → Act α} (works : ∀ type, (task type).run c type = work type) :
    interleave c [] types task = parallel c.context types work := by
  obtain rfl : (fun type => (task type).run c type) = work := funext works
  funext s
  simp only [interleave, follow]
  change (let (outcomes, u) := finish c (.start types task) s; _) = _
  rw [finish_start]
  rfl

theorem listWavesIn_nil (waves : List (List ResourceType))
    (resources : List (ResourceType × List Resource)) :
    listWavesIn c waves [] resources = listWaves c waves resources := by
  -- A schedule that has run out is empty for every wave that is left.
  induction waves generalizing resources with
  | nil => rfl
  | cons wave rest inductionHypothesis =>
    rw [listWavesIn, listWaves]
    rw [show ([] : List (List Nat)).headD [] = [] from rfl,
      interleave_nil c wave fun type => Task.run_listType c type resources]
    exact bind_congr fun found => inductionHypothesis _

/-- Without a schedule the workers take their turns one after the other, as in `run`. -/
theorem runIn_nil (workers : Int) : runIn c ⟨[], []⟩ workers = run c workers := by
  unfold runIn run
  simp only [listWavesIn_nil, interleave_nil c _ fun type => Task.run_accessOfType c type _]

end AccessSync.Sync
