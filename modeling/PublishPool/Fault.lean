import PublishPool.Schema.Issue
import PublishPool.Value.Literal

/-!
Faults: the errors an operation hands back to its caller.

Each constructor is one cause. `Fault.kind` names the class of error a caller
sees and `Fault.message` its text; both are part of the observable behaviour.
Faults raised by the broker client and by arithmetic carry their kind and text
as given by `Fault.Raised`.
-/

namespace PublishPool

/-- The classes of errors raised by the broker client, arithmetic, operand checks
and access to the parts of values. -/
inductive Fault.Class where
  | broker
  | bufferFull
  | typeMismatch
  | badValue
  | runtime
  | zeroDivision
  | overflow
  | connection
  | attribute
  | key
  | index
  | recursion
  /-- A text that cannot be encoded, a kind of bad value. -/
  | unicodeEncode
  deriving DecidableEq, Repr

/-- The name of an error class. -/
def Fault.Class.name : Fault.Class → String
  | .broker => "KafkaException"
  | .bufferFull => "BufferError"
  | .typeMismatch => "TypeError"
  | .badValue => "ValueError"
  | .runtime => "RuntimeError"
  | .zeroDivision => "ZeroDivisionError"
  | .overflow => "OverflowError"
  | .connection => "ConnectionUnavailableError"
  | .attribute => "AttributeError"
  | .key => "KeyError"
  | .index => "IndexError"
  | .recursion => "RecursionError"
  | .unicodeEncode => "UnicodeEncodeError"

/-- An error handed back to the caller of an operation. -/
inductive Fault where
  /-- A batch with no message was offered to the work queue. -/
  | emptyBatch
  /-- The work-queue lock was not free within the timeout (seconds). -/
  | lockTimeout (seconds : Float)
  /-- A client was asked for while the broker list is empty or starts blank. -/
  | noBrokers (brokers : List String)
  /-- Input failed its checks. -/
  | invalid (issues : List Issue)
  /-- A log level name that is none of the four. -/
  | unknownLevel (given : String)
  /-- An error of the given class with its text. -/
  | raised (cls : Fault.Class) (text : String)
  /-- A loop that would run forever: the call never answers. -/
  | endless
  deriving Inhabited

namespace Fault

/-- The class name of a fault. -/
def kind : Fault → String
  | .emptyBatch => "EmptyBatchError"
  | .lockTimeout _ => "LockFailureError"
  | .noBrokers _ => "ConnectionUnavailableError"
  | .invalid _ => "ValidationError"
  | .unknownLevel _ => "ValueError"
  | .raised cls _ => cls.name
  | .endless => "TimeoutError"

/-- The text of a lock timeout. -/
def lockTimeoutText (seconds : Float) : String :=
  "failed to get lock on work queue within " ++ Value.floatNotation.render seconds ++ "s"

/-- The message of a fault. -/
def message : Fault → String
  | .emptyBatch => "no msgs to add"
  | .lockTimeout s => lockTimeoutText s
  | .noBrokers bs => "no brokers to connect to KAFKA_BROKERS=" ++ Value.textListLiteral bs
  | .invalid issues => Issue.summary issues
  | .unknownLevel given =>
    "Got unknown log level string '" ++ given ++
      "'. Valid options are 'debug', 'info', 'warn', 'error'."
  | .raised _ text => text
  | .endless => "the loop does not end"

/-- Division by zero; the text says whether the division was of doubles. -/
def divisionByZero (ofDoubles : Bool) : Fault :=
  .raised .zeroDivision (if ofDoubles then "float division by zero" else "division by zero")

/-- A logarithm or power outside its domain. -/
def mathDomain : Fault := .raised .badValue "math domain error"

/-- A power whose result is beyond the largest double. -/
def outOfRange : Fault := .raised .overflow "(34, 'Numerical result out of range')"

/-- An integer beyond the largest double, converted to a double. -/
def intTooLarge : Fault := .raised .overflow "int too large to convert to float"

/-- A quotient of integers beyond the largest double. -/
def quotientTooLarge : Fault := .raised .overflow "integer division result too large for a float"

/-- Operands of a binary operator with no meaning for their types. -/
def operandTypes (op a b : String) : Fault :=
  .raised .typeMismatch ("unsupported operand type(s) for " ++ op ++ ": '" ++ a ++ "' and '" ++ b ++ "'")

/-- Values of types that cannot be ordered with each other. -/
def notOrderable (op a b : String) : Fault :=
  .raised .typeMismatch ("'" ++ op ++ "' not supported between instances of '" ++ a ++ "' and '" ++ b ++ "'")

/-- A path part as a value: a key as text, an index as integer. -/
def pathValue : PathPart → Value
  | .key k => .str k
  | .index n => .int n

/-- An issue as a mapping of its type, place and text. -/
def issueValue (i : Issue) : Value :=
  .dict [("type", .str i.kind.code), ("loc", .list (i.loc.map pathValue)),
         ("msg", .str i.kind.message)]

/-- A fault as the entries of an error answer: its class and text, and the issue
list of a failed check. -/
def dump (f : Fault) : List (String × Value) :=
  let base := [("error", .str f.kind), ("message", .str f.message)]
  match f with
  | .invalid issues => base ++ [("errors", .list (issues.map issueValue))]
  | _ => base

end Fault

end PublishPool
