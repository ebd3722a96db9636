import AccessSync.Configuration
import AccessSync.Log.Format

/-!
# Log settings

Each component writes to a logger of its own. The settings of a logger come from the environment;
the settings of a configuration are laid over them. A logger that has been set up stays as it is.
-/

namespace AccessSync.Log

def components : List String := [
  "SyncDriver", "Connector", "Credentials", "GraphClient", "ArmClient", "ResourceCache",
  "RoleAssignmentIndex", "PrincipalTypeResolver", "GrantExpansionPolicy",
  "MultiPhaseGrantsOrchestrator", "UserBuilder", "GroupBuilder", "EnterpriseApplicationBuilder",
  "ManagedIdentityBuilder", "TenantBuilder", "SubscriptionBuilder", "ResourceGroupBuilder",
  "RoleBuilder", "StorageAccountBuilder", "ContainerBuilder"]

/-! ## Settings -/

def variableNames : List String := [
  "LOG_LEVEL", "LOG_FILE", "LOG_FORMAT", "LOG_DATE_FORMAT", "LOG_MAX_BYTES", "LOG_BACKUP_COUNT"]

def numberOf (env : Environment) (name : String) (default : Int) : Except Misuse Value :=
  match env.get? name with
  | none => .ok (.int default)
  | some s => (Value.text s).toInteger.map .int

def environmentSettings (env : Environment) : Except Misuse (List (Key × Value)) := do
  return [
    ("level", .text ((env.get? "LOG_LEVEL").getD "INFO")),
    ("file", .text ((env.get? "LOG_FILE").getD "azure_access_connector.log")),
    ("format", .ofText? (env.nonempty? "LOG_FORMAT")),
    ("date_format", .ofText? (env.nonempty? "LOG_DATE_FORMAT")),
    ("max_bytes", ← numberOf env "LOG_MAX_BYTES" (10 * 1024 * 1024)),
    ("backup_count", ← numberOf env "LOG_BACKUP_COUNT" 5),
    ("extra_fields", .mapping [])]

/-- The settings with others laid over them; unknown and null ones are left out. -/
def withOverrides (settings overrides : List (Key × Value)) : List (Key × Value) :=
  overlay settings (overrides.filter fun (key, value) =>
    !value.isNull && (lookup? key settings).isSome)

def settings (env : Environment) (overrides : Value) : Except Misuse (List (Key × Value)) := do
  let given ← environmentSettings env
  if overrides.isEmpty then return given
  else match overrides with
    | .mapping entries => return withOverrides given entries
    | _ => throw .notRecord

/-! ## Loggers -/

def levelsByName : List (String × Int) := [
  ("CRITICAL", 50), ("FATAL", 50), ("ERROR", 40), ("WARNING", 30), ("WARN", 30), ("INFO", 20),
  ("DEBUG", 10), ("NOTSET", 0)]

/-- Names that are looked up as levels are and stand for something else, which is no level. -/
def notLevels : List (String × Misuse) := [("BASIC_FORMAT", .badContent), ("_STYLES", .wrongKind)]

/-- The level that a setting names, in letters of either case; an unknown name means `INFO`. -/
def levelOf (v : Value) : Except Misuse Int :=
  let name := Text.upper v.display
  match notLevels.lookup name with
  | some misuse => .error misuse
  | none => .ok ((levelsByName.lookup name).getD 20)

structure Logger where
  name : String
  level : Int
  format : Format
  file : Option String

namespace Logger

/-- The file that settings name. The sizes of the file have to be numbers. -/
def fileOf (settings : List (Key × Value)) : Except Misuse (Option String) := do
  let file := Configuration.setting settings "file" .null
  if file.isEmpty then return none
  else
    let _ ← (Configuration.setting settings "max_bytes" .null).toInteger
    let _ ← (Configuration.setting settings "backup_count" .null).toInteger
    return some (← file.asText)

def ofSettings (name : String) (settings : List (Key × Value)) : Except Misuse Logger := do
  let setting (key : String) : Value := Configuration.setting settings key .null
  let level ← levelOf (setting "level")
  let format ← Format.ofSettings (setting "format") (setting "date_format")
    (setting "extra_fields")
  return { name, level, format, file := ← fileOf settings }

def inheritedLevel : Int := 30

def accepts (l : Logger) (level : Int) : Bool :=
  decide ((if l.level = 0 then inheritedLevel else l.level) ≤ level)

end Logger

abbrev Loggers := List Logger

namespace Loggers

def find? (loggers : Loggers) (name : String) : Option Logger :=
  List.find? (fun (l : Logger) => l.name == name) loggers

/-- The loggers with one more of a name, unless it has been set up before. -/
def add (env : Environment) (overrides : Value) (loggers : Loggers) (name : String) :
    Except Misuse Loggers :=
  match loggers.find? name with
  | some _ => .ok loggers
  | none => do return loggers ++ [← Logger.ofSettings name (← settings env overrides)]

def configure (env : Environment) (config : List (Key × Value)) (names : List String)
    (loggers : Loggers) : Except Misuse Loggers := do
  let overrides ← Format.entriesOf (Configuration.setting config "logging" .null)
  names.foldlM (add env (.mapping overrides)) loggers

/-- The logger and the line for an entry, if its logger writes it. An entry that has no line is
left out. -/
def line? (loggers : Loggers) (host : String) (e : Entry) : Option (Logger × String) := do
  let logger ← loggers.find? e.component
  if logger.accepts e.level then
    match logger.format.line host e with
    | .ok text => some (logger, text)
    | .error _ => none
  else none

def output (loggers : Loggers) (host : String) (entries : List Entry) : List String :=
  entries.filterMap fun e => (loggers.line? host e).map Prod.snd

def fileLines (loggers : Loggers) (host file : String) (entries : List Entry) : List String :=
  entries.filterMap fun e => do
    let (logger, text) ← loggers.line? host e
    if logger.file = some file then some text else none

def files (loggers : Loggers) : List String := (loggers.filterMap (·.file)).eraseDups

end Loggers

end AccessSync.Log
