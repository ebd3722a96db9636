/-!
# Log records

Components report what they do as log records, which a run collects in order.
-/

namespace AccessSync

inductive Severity where
  | debug
  | info
  | warning
  | error
  deriving Inhabited, DecidableEq, Repr

def Severity.name : Severity → String
  | .debug => "DEBUG"
  | .info => "INFO"
  | .warning => "WARNING"
  | .error => "ERROR"

/-- The rank of a severity on the scale that thresholds are set on. -/
def Severity.rank : Severity → Int
  | .debug => 10
  | .info => 20
  | .warning => 30
  | .error => 40

structure LogRecord where
  severity : Severity
  component : String
  message : String
  deriving Inhabited, DecidableEq, Repr

/-- A state that collects log records. -/
class Journaled (σ : Type) where
  record : LogRecord → σ → σ

end AccessSync
