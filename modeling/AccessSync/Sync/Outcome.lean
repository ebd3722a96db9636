import AccessSync.Connector

/-!
# Outcomes of workers

One worker works on each kind of resource. A worker that fails cancels the run on behalf of all
others. `collect` says what the outcomes of several workers come to: a result for every kind, or
the reason why there is none. A failure is reported for the kind that was started first; a worker
that was merely cancelled along gives no reason of its own.
-/

namespace AccessSync

inductive SyncStop where
  | failed (type : ResourceType) (cause : Failure)
  /-- The sync was cancelled, or met a fault that it does not handle. -/
  | stopped (stop : Stop)

abbrev SyncRun := ExceptT SyncStop (StateM Session)

/-- A failure and the phase it belongs to. Without a phase it belongs to the listing. -/
def Failure.phaseName (f : Failure) : String :=
  match f.phase with
  | some phase => if phase.isEmpty then "list" else phase
  | none => "list"

def SyncStop.failedMessage (type : ResourceType) (cause : Failure) : String :=
  "sync of " ++ type.name ++ " failed in phase " ++ cause.phaseName ++ ": " ++ cause.message

def Stop.isCancelled : Stop → Bool
  | .fault (.failure f) => f.isCancelled
  | _ => false

namespace Sync

def component : String := "SyncDriver"

/-- Lets a stop pass as the stop of a sync. -/
def lift {α : Type} (action : Act α) : SyncRun α := fun s =>
  match action s with
  | (.ok a, t) => (.ok a, t)
  | (.error stop, t) => (.error (.stopped stop), t)

/-- Runs the work on a kind of resource to its outcome. Any fault but a cancellation cancels the
run, and a failure is reported. -/
def attempt {α : Type} (type : ResourceType) (work : Act α) : StateM Session (Except SyncStop α) :=
  fun s =>
    match work s with
    | (.ok a, t) => (.ok a, t)
    | (.error (.fault (.failure f)), t) =>
      if f.isCancelled then (.error (.stopped (.fault (.failure f))), t)
      else
        let record : LogRecord := ⟨.error, component,
          "Sync of " ++ type.name ++ " failed in phase " ++ f.phaseName ++ ": " ++ f.message⟩
        (.error (.failed type f), { t with cancelled := true, journal := record :: t.journal })
    | (.error (.fault (.defect d)), t) =>
      (.error (.stopped (.fault (.defect d))), { t with cancelled := true })
    | (.error .unfinished, t) => (.error (.stopped .unfinished), t)

def attemptAll {α : Type} (work : ResourceType → Act α) :
    List ResourceType → StateM Session (List (ResourceType × Except SyncStop α))
  | [] => pure []
  | type :: rest => do
    let outcome ← attempt type (work type)
    return (type, outcome) :: (← attemptAll work rest)

/-- The results of all workers, unless one of them has none or the run is cancelled. `earlier` is
the failure of a worker that was started before. -/
def collect {α : Type} (cancelled : Bool) (earlier : Option (ResourceType × Failure)) :
    List (ResourceType × Except SyncStop α) → Except SyncStop (List (ResourceType × α))
  | [] =>
    match earlier with
    | some (type, cause) => .error (.failed type cause)
    | none =>
      if cancelled then .error (.stopped (.fault (.failure { cause := .cancelled }))) else .ok []
  | (type, .ok a) :: rest => do
    return (type, a) :: (← collect cancelled earlier rest)
  | (_, .error (.failed type cause)) :: rest =>
    collect cancelled (earlier.or (some (type, cause))) rest
  | (_, .error (.stopped stop)) :: rest =>
    -- Any other stop is reported at once, whatever failed before.
    if stop.isCancelled && (earlier.isSome || cancelled) then collect cancelled earlier rest
    else .error (.stopped stop)

def parallel {α : Type} (context : Context Session) (types : List ResourceType)
    (work : ResourceType → Act α) : SyncRun (List (ResourceType × α)) := fun s =>
  let (outcomes, t) := attemptAll work types s
  let (cancelled, u) := context.isCancelled t
  (collect cancelled none outcomes, u)

end Sync

end AccessSync
