import AccessSync.Text.Digit
import AccessSync.Text.Split

/-!
# The command line

Two options take a value each, written after the option or joined to it by an equals sign; a third
one asks for help. An option may be shortened as long as no other one starts in the same way.
Anything else is refused. Of several mistakes and requests for help the first one counts, but for
an option that is too short, which is found before all others.
-/

namespace AccessSync

structure Options where
  config : Option String := none
  output : Option String := none
  deriving Inhabited, DecidableEq, Repr

namespace CommandLine

inductive Flag where
  | help
  | config
  | output
  deriving Inhabited, DecidableEq, Repr

def Flag.name : Flag → String
  | .help => "--help"
  | .config => "--config"
  | .output => "--output"

def shortHelp : String := "-h"

def Flag.all : List Flag := [.help, .config, .output]

inductive Argument where
  /-- An option, with a value if one is joined to it. -/
  | flag (flag : Flag) (value : Option String)
  | unknown
  | word (text : String)
  deriving Inhabited, DecidableEq, Repr

inductive Request where
  | sync (options : Options)
  | help
  | refused
  deriving Inhabited, DecidableEq, Repr

/-! ## Forms of arguments -/

/-- The text before the first equals sign and the text after it, if there is one. -/
def splitValue (s : String) : String × Option String :=
  match s.toList.span (· ≠ '=') with
  | (before, _ :: after) => (String.ofList before, some (String.ofList after))
  | (before, []) => (String.ofList before, none)

def isDigit (c : Char) : Bool := (Text.digitValue? c).isSome

/-- The text is a negative number, which no option is. -/
def isNegativeNumber (s : String) : Bool :=
  match s.toList with
  | '-' :: cs =>
    match cs.dropWhile isDigit with
    | [] => !cs.isEmpty
    | '.' :: fraction => !fraction.isEmpty && fraction.all isDigit
    | _ => false
  | _ => false

/-- An argument that is no option: a value if it could not be meant as an option. -/
def otherwise (s : String) : Argument :=
  if isNegativeNumber s || s.toList.contains ' ' then .word s else .unknown

/-- The options that a shortened form stands for. -/
def candidates (start : String) : List Flag :=
  Flag.all.filter fun f => Text.startsWith start f.name

/-- The form of an argument; nothing if it stands for several options. -/
def classify (s : String) : Option Argument :=
  if !Text.startsWith "-" s || s = "-" then some (.word s)
  else
    let (name, value) := splitValue s
    if name = shortHelp then some (.flag .help value)
    else if Text.startsWith "--" s then
      match Flag.all.find? (·.name = name), candidates name with
      | some f, _ => some (.flag f value)
      | none, [] => some (otherwise s)
      | none, [f] => some (.flag f value)
      | none, _ => none
    else if Text.startsWith shortHelp s then some (.flag .help none)
    else some (otherwise s)

/-- The forms of the arguments. After two dashes there are only words, which are never wanted. -/
def classifyAll : List String → Option (List Argument)
  | [] => some []
  | s :: rest =>
    if s = "--" then some [.unknown]
    else do return (← classify s) :: (← classifyAll rest)

/-! ## Requests -/

def Options.set (options : Options) (f : Flag) (value : String) : Options :=
  match f with
  | .config => { options with config := some value }
  | .output => { options with output := some value }
  | .help => options

/-- What arguments come to after the given options. `strange` tells that there was an argument
that nothing is made of. -/
def request (options : Options) (strange : Bool) : List Argument → Request
  | [] => if strange then .refused else .sync options
  | .flag .help none :: _ => .help
  | .flag .help (some _) :: _ => .refused
  | .flag f (some value) :: rest => request (Options.set options f value) strange rest
  | .flag f none :: .word value :: rest => request (Options.set options f value) strange rest
  | .flag _ none :: _ => .refused
  | _ :: rest => request options true rest

def parse (arguments : List String) : Request :=
  match classifyAll arguments with
  | some forms => request {} false forms
  | none => .refused

def usage : String :=
  "usage: azure-access-connector [-h] [--config CONFIG] [--output OUTPUT]"

end CommandLine

end AccessSync
