import PublishPool.Value

/-!
Worker counters.

A worker counts the messages it published, the publish attempts that failed, and
the messages it dropped, by reason. Reasons appear in the order they were first
recorded; a drop of zero messages records nothing.
-/

namespace PublishPool

/-- Why a worker discarded messages without publishing them. -/
inductive DropReason where
  | shutdownRemainder
  | notImplemented
  | unsupportedKind
  | retriesExhausted
  deriving DecidableEq, Repr

/-- The name of a drop reason. -/
def DropReason.name : DropReason → String
  | .shutdownRemainder => "shutdown_remainder"
  | .notImplemented => "not_implemented"
  | .unsupportedKind => "unsupported_kind"
  | .retriesExhausted => "retries_exhausted"

/-- The counters of one worker. -/
structure Metrics where
  published : Nat := 0
  publishFailures : Nat := 0
  dropped : List (DropReason × Nat) := []
  deriving Inhabited

namespace Metrics

/-- Adds dropped messages under a reason; a zero count changes nothing. -/
def recordDrop (m : Metrics) (reason : DropReason) (count : Nat) : Metrics :=
  if count = 0 then m
  else if m.dropped.any (·.1 == reason) then
    { m with dropped := m.dropped.map fun e => if e.1 == reason then (reason, e.2 + count) else e }
  else { m with dropped := m.dropped ++ [(reason, count)] }

/-- The messages dropped for one reason, none when the reason was never recorded. -/
def droppedFor (m : Metrics) (reason : DropReason) : Nat := (m.dropped.lookup reason).getD 0

/-- All dropped messages. -/
def totalDropped (m : Metrics) : Nat := (m.dropped.map (·.2)).foldr (· + ·) 0

/-- The counters as a mapping: published, failures and drops by reason. -/
def dump (m : Metrics) : Value :=
  .dict [("published", .int m.published), ("publish_failures", .int m.publishFailures),
         ("dropped", .dict (m.dropped.map fun (r, n) => (r.name, .int n)))]

end Metrics

end PublishPool
