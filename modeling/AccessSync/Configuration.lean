import AccessSync.Fault
import AccessSync.Text.Blank
import AccessSync.Text.Case
import AccessSync.Yaml.Document

/-!
# Configuration

A configuration is a mapping of settings. It starts from the defaults; the settings of a file are
laid over them, and variables of the environment replace single settings. Validation then turns
the typed settings into truth values and whole numbers, so that a valid configuration holds no
other kind of value there, and refuses credentials that contradict each other.
-/

namespace AccessSync

structure Environment where
  entries : List (String × String)

namespace Environment

def get? (env : Environment) (name : String) : Option String := env.entries.lookup name

def nonempty? (env : Environment) (name : String) : Option String :=
  (env.get? name).filter (!·.isEmpty)

end Environment

namespace Configuration

/-! ## Settings -/

/-- The settings that apply where nothing else is given. -/
def defaults : List (Key × Value) := [
  ("azure_tenant_id", .text ""),
  ("azure_client_id", .text ""),
  ("azure_client_secret", .text ""),
  ("use_cli_credentials", .bool false),
  ("mailbox_settings", .bool false),
  ("skip_ad_groups", .bool false),
  ("small_page_heuristic", .bool true),
  ("small_page_threshold", .int 50),
  ("page_size", .int 100),
  ("max_workers", .int 4),
  ("output_path", .text "sync_output.json"),
  ("logging", .mapping [])]

def booleanKeys : List String :=
  ["use_cli_credentials", "mailbox_settings", "skip_ad_groups", "small_page_heuristic"]

def integerKeys : List String := ["small_page_threshold", "page_size", "max_workers"]

def positiveKeys : List String := ["page_size", "max_workers"]

def setting (entries : List (Key × Value)) (key : String) (default : Value) : Value :=
  (lookup? key entries).getD default

/-- The setting of a key or what applies without it. -/
def effective (entries : List (Key × Value)) (key : String) : Value :=
  setting entries key (setting defaults key .null)

/-! ## Files -/

def defaultFile : String := "config/connector_config.yml"

/-- The file to read: the one that is asked for, else the one that the environment names. -/
def fileToRead (asked : Option String) (env : Environment) : String :=
  (asked.or (env.get? "CONFIG_PATH")).getD defaultFile

def refuse {α : Type} (fault : ConfigurationFault) : Except Fault α :=
  .error (.failure { cause := .configuration fault })

/-- Refuses a configuration in words that show a value. One that is too long to be shown cannot even
be refused. -/
def refuseShowing {α : Type} (given : Value) (fault : ConfigurationFault) : Except Fault α :=
  if given.isWritable then refuse fault else .error (.defect (.misuse .badContent))

def ofFile (file : String) (content : Option String) : Except Fault (List (Key × Value)) :=
  match content with
  | none => .error (.defect (.missingFile file))
  | some text =>
    match Yaml.parse text with
    | .error .malformed => refuse (.unreadable file)
    | .error (.misuse m) => .error (.defect (.misuse m))
    | .ok .null => .ok []
    | .ok (.mapping entries) => .ok entries
    | .ok _ => refuse (.notMapping file)

/-! ## The environment -/

/-- The variable that replaces a setting: the key in capitals. -/
def variableName : Key → Except Misuse String
  | .text s => .ok (Text.upper s)
  | _ => .error .notRecord

mutual

/-- A setting, replaced by its variable if that is set. A mapping is not replaced; the settings in
it are. -/
def withVariable (env : Environment) (name : String) : Value → Except Misuse Value
  | .mapping entries => do return .mapping (← withVariables env entries)
  | v => .ok (match env.get? name with
    | some s => .text s
    | none => v)

def withVariables (env : Environment) : List (Key × Value) → Except Misuse (List (Key × Value))
  | [] => .ok []
  | (key, value) :: rest => do
    let name ← variableName key
    let replaced ← withVariable env name value
    return (key, replaced) :: (← withVariables env rest)

end

mutual

/-- The variables that can replace a setting or the settings in it. -/
def variablesOfValue (name : String) : Value → List String
  | .mapping entries => variablesOf entries
  | _ => [name]

def variablesOf : List (Key × Value) → List String
  | [] => []
  | (key, value) :: rest =>
    (match variableName key with
      | .ok name => variablesOfValue name value
      | .error _ => []) ++ variablesOf rest

end

/-! ## Validation -/

def trueWords : List String := ["1", "true", "yes", "on"]

def falseWords : List String := ["0", "false", "no", "off", ""]

def toBoolean (key : String) : Value → Except Fault Bool
  | .bool b => .ok b
  | v =>
    if !v.isWritable then .error (.defect (.misuse .badContent))
    else
      let word := Text.lower (Text.trim v.display)
      if trueWords.contains word then .ok true
      else if falseWords.contains word then .ok false
      else refuse (.notBoolean key v)

def toWhole (key : String) : Value → Except Fault Int
  -- Elsewhere a truth value counts as a number.
  | .bool b => refuse (.notInteger key (.bool b))
  | v =>
    match v.toInteger with
    | .ok n => .ok n
    | .error .tooLarge => .error (.defect (.misuse .tooLarge))
    | .error _ => refuseShowing v (.notInteger key v)

def withBooleans (entries : List (Key × Value)) (keys : List String) :
    Except Fault (List (Key × Value)) :=
  keys.foldlM (fun entries key => do
    return setEntry key (.bool (← toBoolean key (effective entries key))) entries) entries

def withIntegers (entries : List (Key × Value)) (keys : List String) :
    Except Fault (List (Key × Value)) :=
  keys.foldlM (fun entries key => do
    return setEntry key (.int (← toWhole key (effective entries key))) entries) entries

def wholeOf (entries : List (Key × Value)) (key : String) : Int :=
  match lookup? key entries with
  | some (.int n) => n
  | _ => 0

def requirePositive (entries : List (Key × Value)) : List String → Except Fault Unit
  | [] => .ok ()
  | key :: rest =>
    let n := wholeOf entries key
    if n < 1 then refuseShowing (.int n) (.belowOne key n) else requirePositive entries rest

/-- The settings with a mapping for the log. -/
def withLogging (entries : List (Key × Value)) : List (Key × Value) :=
  match lookup? "logging" entries with
  | some (.mapping _) => entries
  | _ => setEntry "logging" (.mapping []) entries

/-- Requires credentials that do not contradict each other. -/
def requireCredentials (entries : List (Key × Value)) : Except Fault Unit :=
  let client := (setting entries "azure_client_id" .null).holds
  let secret := (setting entries "azure_client_secret" .null).holds
  if (setting entries "use_cli_credentials" .null).holds && (client || secret) then
    refuse .conflictingCredentials
  else if client != secret then refuse .unpairedCredentials
  else .ok ()

def validate (entries : List (Key × Value)) : Except Fault (List (Key × Value)) := do
  let typed ← withIntegers (← withBooleans entries booleanKeys) integerKeys
  requirePositive typed positiveKeys
  let logged := withLogging typed
  if wholeOf logged "small_page_threshold" < 0 then refuse .negativeThreshold
  requireCredentials logged
  return logged

/-- The valid configuration that a file with the given content and the environment make. -/
def load (file : String) (content : Option String) (env : Environment) :
    Except Fault (List (Key × Value)) := do
  -- Variables replace what the file and the defaults have; they add nothing new.
  let given := overlay defaults (← ofFile file content)
  match withVariables env given with
  | .ok merged => validate merged
  | .error m => .error (.defect (.misuse m))

end Configuration

end AccessSync
