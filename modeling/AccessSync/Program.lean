import AccessSync.CommandLine
import AccessSync.Credential
import AccessSync.Log.Settings
import AccessSync.Sync.Waves

/-!
# The program

One run of the program: read the command line, load the configuration, set up the log, connect,
sync, and write the document. A run ends with an exit code; what it writes is part of its outcome,
so the outcome says everything that the run does.
-/

namespace AccessSync

structure Surroundings where
  arguments : List String
  environment : Environment
  read : String → Option String
  /-- A file of this name can be written. -/
  canWrite : String → Bool
  /-- An open file of this number can be written. -/
  canWriteTo : Int → Bool
  world : World
  limit : Nat
  host : String
  syncId : String

structure Conclusion where
  exit : Nat
  /-- Records from before the log is set up. -/
  early : List LogRecord := []
  loggers : Log.Loggers := []
  entries : List Log.Entry := []
  /-- The document that is written, with the name of its file. -/
  document : Option (String × Value) := none

namespace Program

def component : String := Sync.component

/-! ## Before the sync -/

/-- The configuration with the identifier of the sync among the extra fields of the log. -/
def withSyncId (syncId : String) (config : List (Key × Value)) :
    Except Misuse (List (Key × Value)) := do
  let logging ← Log.Format.entriesOf (Configuration.setting config "logging" .null)
  match Configuration.setting logging "extra_fields" (.mapping []) with
  | .mapping extra =>
    let marked := setEntry "extra_fields" (.mapping (setEntry "sync_id" (.text syncId) extra))
      logging
    return setEntry "logging" (.mapping marked) config
  | _ => throw .wrongKind

/-- Where the document goes: where the command line says, else where the configuration says. -/
def outputPath (options : Options) (config : List (Key × Value)) : Value :=
  match options.output.filter (!·.isEmpty) with
  | some path => .text path
  | none => Configuration.setting config "output_path" (.text "sync_output.json")

/-! ## The sync -/

def connect (s : Surroundings) (config : Value) : Act Connector := do
  let _ ← Credential.ofConfig config
  Run.reading (Connector.ofConfig s.world s.limit config true)

def sync (s : Surroundings) (config : Value) : SyncRun SyncDocument := do
  let c ← Sync.lift (connect s config)
  Sync.lift c.validate
  let workers ← Sync.lift (Run.reading (Sync.workersOf config))
  Sync.run c workers

def failureText (syncId : String) : SyncStop → String
  | .failed type cause =>
    "Sync " ++ syncId ++ " failed for resource type " ++ type.name ++ " (phase " ++
      cause.phaseName ++ "): " ++ cause.message
  | .stopped (.fault (.failure f)) => "Sync " ++ syncId ++ " failed: " ++ f.message
  | .stopped _ => "Sync " ++ syncId ++ " failed with an unexpected error"

/-! ## The run -/

def record (severity : Severity) (message : String) : LogRecord := ⟨severity, component, message⟩

/-- The file that a path stands for can be written: a text is the name of a file, and a number the
number of one that is open. Other values stand for none. -/
def accepts (s : Surroundings) : Value → Except Misuse Bool
  | .text file => .ok (s.canWrite file)
  | .int n => .ok (s.canWriteTo n)
  | .bool b => .ok (s.canWriteTo (if b then 1 else 0))
  | _ => .error .wrongKind

def write (s : Surroundings) (path : Value) (document : SyncDocument) :
    Except Fault (String × Value) :=
  let value := document.toValue [("sync_id", .text s.syncId)]
  match accepts s path with
  | .ok true =>
    -- The settings may have brought in what no document can hold.
    match Json.obstacle? value with
    | none => .ok (path.display, value)
    | some misuse => .error (.defect (.misuse misuse))
  | .ok false => .error (.defect (.unwritable path.display))
  | .error misuse => .error (.defect (.misuse misuse))

def runWith (s : Surroundings) (options : Options) (config : List (Key × Value)) :
    Except Fault Conclusion := do
  let misuse {α : Type} (r : Except Misuse α) : Except Fault α :=
    r.mapError fun m => .defect (.misuse m)
  -- Up to the sync, and again after it, faults are not turned into exit codes.
  let config ← misuse (withSyncId s.syncId config)
  let loggers ← misuse (Log.Loggers.configure s.environment config Log.components [])
  if let some file := loggers.files.find? (!s.canWrite ·) then .error (.defect (.unwritable file))
  let start := record .info ("Starting sync " ++ s.syncId)
  let (outcome, session) := sync s (.mapping config) { Session.new with journal := [start] }
  let time := s.world.answer session.history .clock
  let entries (last : LogRecord) : List Log.Entry :=
    (last :: session.journal).reverse.map (Log.Entry.ofRecord · time)
  match outcome with
  | .error stop =>
    return { exit := 1, loggers, entries := entries (record .error (failureText s.syncId stop)) }
  | .ok document =>
    let (file, value) ← write s (outputPath options config) document
    return {
      exit := 0
      loggers
      entries := entries (record .info ("Sync output written to " ++ file))
      document := some (file, value) }

/-- The run without a configuration. Faults that the user can mend are reported; others escape. -/
def refuse (fault : Fault) : Except Fault Conclusion :=
  let reported : Conclusion :=
    { exit := 1, early := [record .error ("Failed to load configuration: " ++ fault.message)] }
  match fault with
  | .failure _ | .defect (.missingFile _) => .ok reported
  | .defect _ => .error fault

def run (s : Surroundings) : Except Fault Conclusion :=
  match CommandLine.parse s.arguments with
  | .help => .ok { exit := 0 }
  | .refused => .ok { exit := 2 }
  | .sync options =>
    let file := Configuration.fileToRead options.config s.environment
    match Configuration.load file (s.read file) s.environment with
    | .error fault => refuse fault
    | .ok config => runWith s options config

end Program

end AccessSync
