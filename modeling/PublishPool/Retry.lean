import PublishPool.Value.Compare
import PublishPool.Settings.Basic

/-!
Retry policies for failed publishes.

A policy decides whether a message is published again after `a` failed attempts
and how long to wait first. Without an attempt limit it retries forever. The wait
starts at `interval` and grows by `backoffMultiplier` after every failure up to
`cap = max maxInterval interval`: `delay a` is `interval` when the multiplier is at
most one, `cap` once `max (a - 1) 0` reaches `log (cap / interval)` to base
multiplier, and `min (interval · multiplier^(max (a - 1) 0)) cap` before that. The
logarithmic test comes first so that the power is only taken where it stays below
the cap. The logarithm and the power come from a maths library: `delayWith` takes
one, and `delay` uses the platform's.

The fields are values of any kind, kept as given, so an integer policy gives
integer delays and a text interval is handed back as it is while the multiplier
is at most one. They are compared and combined as `Value.compare` and the
operators of `Num` do, so a field that does not fit a step fails that step with a
type error.

`RetryPolicy.ofFields` builds a policy from named fields: `interval` is required,
the others have defaults, and any other name is refused.
-/

namespace PublishPool

/-- When and how long to wait before publishing a message again. -/
structure RetryPolicy where
  interval : Value
  maxAttempts : Value := .none
  backoffMultiplier : Value := .float 1.0
  maxInterval : Value := .float 30.0
  deriving Inhabited

namespace RetryPolicy

/-- Another attempt follows `attempt` failed ones unless the limit is reached. -/
def shouldRetry (p : RetryPolicy) (attempt : Value) : Except Fault Bool :=
  match p.maxAttempts with
  | .none => .ok true
  | limit => Value.compare .lt attempt limit

/-- The wait before the attempt after `attempt` failures, with the logarithm and
power of the maths library `lib`. -/
def delayWith (p : RetryPolicy) (lib : MathLib) (attempt : Value) : Except Fault Value := do
  if ← Value.compare .le p.backoffMultiplier (.float 1.0) then return p.interval
  let cap ← Value.maximum p.maxInterval p.interval
  let e ← Value.maximum (Num.toValue (← Num.subValues attempt (.int 1))) (.int 0)
  let ratio ← Num.onValues "/" Num.div cap p.interval
  let base ← match Num.ofValue? p.backoffMultiplier with
    | some b => pure b
    | none => throw (.raised .typeMismatch
        ("must be real number, not " ++ p.backoffMultiplier.typeName))
  let reach ← Num.logBase lib ratio base
  if ← Value.compare .ge e (.float reach) then return cap
  let growth ← Num.onValues "**" (Num.power lib) p.backoffMultiplier e
  let grown ← Num.onValues "*" Num.mul p.interval growth.toValue
  Value.minimum grown.toValue cap

/-- The wait before the attempt after `attempt` failures, with the platform's maths
library. -/
def delay (p : RetryPolicy) (attempt : Value) : Except Fault Value :=
  p.delayWith .platform attempt

/-- Without an attempt limit every attempt is retried. -/
theorem shouldRetry_none {p : RetryPolicy} (unlimited : p.maxAttempts = .none) (attempt : Value) :
    p.shouldRetry attempt = .ok true := by
  simp [shouldRetry, unlimited]

/-- With an integer limit, attempt `a` is retried exactly when it is below the limit. -/
theorem shouldRetry_int {p : RetryPolicy} {n : Int} (limit : p.maxAttempts = .int n) (a : Int) :
    p.shouldRetry (.int a) = .ok (decide (a < n)) := by
  simp only [shouldRetry, limit]
  show Except.ok _ = _
  congr 1
  rw [Bool.eq_iff_iff]
  simp [Num.order, Comparison.holds, Int.compare_eq_lt]

/-- The policy a pool's settings describe: the retry interval, the attempt limit,
the multiplier and the longest wait. -/
def ofSettings (s : Settings) : RetryPolicy :=
  { interval := .float s.publishRetryIntervalSec
    maxAttempts := match s.retryMaxAttempts with
      | some n => .int n
      | none => .none
    backoffMultiplier := .float s.retryBackoffMultiplier
    maxInterval := .float s.retryMaxIntervalSec }

/-- The names of a policy's fields, in order. -/
def fieldNames : List String := ["interval", "max_attempts", "backoff_multiplier", "max_interval"]

/-- A policy from named fields: a name that is no field is refused first, then a
missing interval. -/
def ofFields (fields : List (String × Value)) : Except Fault RetryPolicy :=
  match fields.find? (fun f => !fieldNames.contains f.1) with
  | some (name, _) =>
    .error (.raised .typeMismatch
      ("RetryPolicy.__init__() got an unexpected keyword argument '" ++ name ++ "'"))
  | none =>
    match Value.lookup fields "interval" with
    | none => .error (.raised .typeMismatch
        "RetryPolicy.__init__() missing 1 required positional argument: 'interval'")
    | some interval =>
      let d : RetryPolicy := { interval }
      .ok { interval,
            maxAttempts := (Value.lookup fields "max_attempts").getD d.maxAttempts,
            backoffMultiplier := (Value.lookup fields "backoff_multiplier").getD d.backoffMultiplier,
            maxInterval := (Value.lookup fields "max_interval").getD d.maxInterval }

/-- The fields of a policy under their names, in order. -/
def fields (p : RetryPolicy) : List (String × Value) :=
  [("interval", p.interval), ("max_attempts", p.maxAttempts),
   ("backoff_multiplier", p.backoffMultiplier), ("max_interval", p.maxInterval)]

end RetryPolicy

end PublishPool
