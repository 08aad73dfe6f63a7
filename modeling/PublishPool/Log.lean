import PublishPool.Fault
import PublishPool.Text.Blank

/-!
Log lines and the capture threshold.

Operations report what went wrong as log lines of a severity. Only warnings and
errors are observable: a line is captured when its severity is at least the
threshold, which starts at `warning` and can be raised to `error` (or set to
`debug`, `info` or `warning`, which capture the same lines) by a level name.
-/

namespace PublishPool

/-- How serious a log line is. -/
inductive Severity where
  | debug
  | info
  | warning
  | error
  deriving DecidableEq, Repr

/-- Severities in increasing order. -/
def Severity.rank : Severity → Nat
  | .debug => 0
  | .info => 1
  | .warning => 2
  | .error => 3

/-- The upper-case name of a severity. -/
def Severity.name : Severity → String
  | .debug => "DEBUG"
  | .info => "INFO"
  | .warning => "WARNING"
  | .error => "ERROR"

/-- One line of the log. -/
structure LogLine where
  severity : Severity
  text : String
  deriving DecidableEq, Repr

/-- A warning line. -/
def LogLine.warn (text : String) : LogLine := ⟨.warning, text⟩

/-- An error line. -/
def LogLine.err (text : String) : LogLine := ⟨.error, text⟩

/-- The threshold a level name sets: the name is lowered (not trimmed) and must be
`debug`, `info`, `warn` or `error`. -/
def Severity.ofLevelName (name : String) : Except Fault Severity :=
  match Text.lower name with
  | "debug" => .ok .debug
  | "info" => .ok .info
  | "warn" => .ok .warning
  | "error" => .ok .error
  | _ => .error (.unknownLevel name)

/-- The threshold a level sets: a text is read as a level name, and any other value
leaves the usual threshold, warnings. -/
def Severity.ofLevel : Value → Except Fault Severity
  | .str name => Severity.ofLevelName name
  | _ => .ok .warning

/-- The lines a capture at this threshold keeps, in order. -/
def Severity.capture (threshold : Severity) (lines : List LogLine) : List LogLine :=
  lines.filter fun l => threshold.rank ≤ l.severity.rank && Severity.warning.rank ≤ l.severity.rank

end PublishPool
