import AccessSync.Journal
import AccessSync.Moment.Pattern
import AccessSync.Text.Split
import AccessSync.Text.Template

/-!
# Log lines

A log line is a template filled with the fields of an entry. Besides its own fields every entry has
the name of the host and the extra fields of the format, such as the identifier of a run; a field
that the entry brings along itself wins over an extra field.
-/

namespace AccessSync.Log

structure Entry where
  component : String
  level : Int
  message : String
  values : List Value
  time : Value
  own : List (Key × Value)

def Entry.ofRecord (record : LogRecord) (time : Int) : Entry :=
  ⟨record.component, record.severity.rank, record.message, [], .int time, []⟩

def levelNames : List (Int × String) :=
  [(50, "CRITICAL"), (40, "ERROR"), (30, "WARNING"), (20, "INFO"), (10, "DEBUG"), (0, "NOTSET")]

def levelName (level : Int) : String :=
  (levelNames.lookup level).getD ("Level " ++ toString level)

structure Format where
  template : String
  dateFormat : Value
  extra : List (Key × Value)

namespace Format

def defaultTemplate : String :=
  "%(asctime)s - %(hostname)s - Thread:%(threadName)s - %(name)s - %(levelname)s - %(message)s"

def defaultDateFormat : String := "%Y-%m-%d %H:%M:%S"

def pairOf (v : Value) : Except Misuse (Key × Value) := do
  match ← v.elements with
  | [.list _, _] | [.mapping _, _] => throw .wrongKind
  | [.null, value] => return (.null, value)
  | [.bool b, value] => return (.bool b, value)
  | [.int n, value] => return (.int n, value)
  | [.float x, value] => return (.float x, value)
  | [.text s, value] => return (.text s, value)
  | _ => throw .badContent

/-- The entries of a mapping, or of a list of pairs; none for an empty value. -/
def entriesOf (v : Value) : Except Misuse (List (Key × Value)) :=
  match v with
  | .mapping entries => .ok entries
  | v =>
    if v.isEmpty then .ok []
    else do return overlay [] (← (← v.elements).mapM pairOf)

/-- The format that settings ask for. A template has at least one field with a name. -/
def ofSettings (template dateFormat extra : Value) : Except Misuse Format := do
  let template ← (template.orElse (.text defaultTemplate)).asText
  if Template.hasNamedField template then
    return {
      template
      dateFormat := dateFormat.orElse (.text defaultDateFormat)
      extra := ← entriesOf extra }
  else throw .badContent

def usesTime (f : Format) : Bool := Text.contains "%(asctime)" f.template

def commonFields (e : Entry) : List (Key × Value) := [
  ("name", .text e.component),
  ("levelname", .text (levelName e.level)),
  ("levelno", .int e.level),
  ("lineno", .int 1),
  ("threadName", .text "MainThread"),
  ("processName", .text "MainProcess"),
  ("msg", .text e.message),
  ("created", e.time),
  ("exc_info", .null),
  ("exc_text", .null),
  ("stack_info", .null)]

def timeText (f : Format) (e : Entry) : Except Misuse String := do
  return Moment.dated (← f.dateFormat.asText) (← e.time.toInteger)

/-- The fields of an entry: the latest to be set come first. -/
def fields (f : Format) (host : String) (e : Entry) (message : String) (time : Option String) :
    List (Key × Value) :=
  let own := overlay (commonFields e) e.own
  let known := setEntry "hostname" (.text host) own
  let added := f.extra.filter fun (key, _) => (lookup? key known).isNone
  let described := setEntry "message" (.text message) (known ++ added)
  match time with
  | some text => setEntry "asctime" (.text text) described
  | none => described

/-- The fault of a line. A field that an entry does not have is unsuitable content. -/
def lineFault : Misuse → Misuse
  | .missingKey _ => .badContent
  | other => other

def line (f : Format) (host : String) (e : Entry) : Except Misuse String := do
  let message ← Template.fill e.message e.values
  let time ← if f.usesTime then some <$> f.timeText e else pure none
  let known := f.fields host e message time
  match Template.fillNamed f.template fun name => lookup? (.text name) known with
  | .ok s => return s
  | .error fault => throw (lineFault fault)

end Format

end AccessSync.Log
