import AccessSync.Json.Reader
import AccessSync.Program
import AccessSync.Rehearsal.Script

/-!
# The executable

Reads what the program is given, runs it, and writes what the run comes to. The services are those
of the script in the file that the variable `SERVICES_SCRIPT` names, so a run is a rehearsal;
without a script every request finds nothing.
-/

namespace AccessSync.Main

/-- The most pages that one enumeration may have. -/
def pageLimit : Nat := 1000000000

def readFile? (file : String) : IO (Option String) := do
  try return some (← IO.FS.readFile file) catch _ => return none

/-- The variables of the given names that are set. -/
def environment (names : List String) : IO Environment := do
  let found ← names.mapM fun name => do return (← IO.getEnv name).map (name, ·)
  return ⟨found.filterMap id⟩

def settingsOf (file : String) (content : Option String) : List (Key × Value) :=
  overlay Configuration.defaults
    (match Configuration.ofFile file content with
      | .ok entries => entries
      | .error _ => [])

def script : IO Script := do
  let content ← match ← IO.getEnv "SERVICES_SCRIPT" with
    | some file => readFile? file
    | none => pure none
  return Script.ofValue (((content.bind Json.parse?)).getD .null)

def freshId : IO String := do
  let digits ← (List.range 32).mapM fun _ => IO.rand 0 15
  return String.ofList (digits.map Text.hexDigit)

def appendLines (file : String) (lines : List String) : IO Unit := do
  let before := (← readFile? file).getD ""
  IO.FS.writeFile file (before ++ String.join (lines.map (· ++ "\n")))

def deliver (host : String) (c : Conclusion) : IO UInt32 := do
  for record in c.early do
    IO.eprintln (record.component ++ " - " ++ record.severity.name ++ " - " ++ record.message)
  for line in c.loggers.output host c.entries do
    IO.println line
  for file in c.loggers.files do
    appendLines file (c.loggers.fileLines host file c.entries)
  match c.document with
  | some (file, value) => IO.FS.writeFile file (Json.indented value)
  | none => pure ()
  return UInt32.ofNat c.exit

end AccessSync.Main

open AccessSync in
def main (arguments : List String) : IO UInt32 := do
  let asked : Option String := match CommandLine.parse arguments with
    | .sync options => options.config
    | _ => none
  let file := Configuration.fileToRead asked (← Main.environment ["CONFIG_PATH"])
  let content ← Main.readFile? file
  let names := Log.variableNames ++ Configuration.variablesOf (Main.settingsOf file content)
  let host := (((← Main.readFile? "/etc/hostname").getD "localhost").trimAscii).toString
  let conclusion := Program.run {
    arguments
    environment := ← Main.environment ("CONFIG_PATH" :: names)
    read := fun name => if name = file then content else none
    canWrite := fun name => !name.isEmpty
    canWriteTo := fun _ => false
    world := (← Main.script).world
    limit := Main.pageLimit
    host
    syncId := ← Main.freshId }
  match CommandLine.parse arguments with
  | .help => IO.println CommandLine.usage
  | .refused => IO.eprintln CommandLine.usage
  | .sync _ => pure ()
  match conclusion with
  | .ok c => Main.deliver host c
  | .error fault =>
    IO.eprintln fault.message
    return 1
