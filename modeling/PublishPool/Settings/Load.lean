import PublishPool.Settings.Basic
import PublishPool.Schema.Coerce
import PublishPool.Value.Key

/-!
Loading settings from the environment and from keyword values.

A setting is looked up first among the keyword values by its name in any case,
then among the environment entries named `KAFKA_` and the setting's name in any case
(the last such entry counts). A setting given nowhere keeps its default, which is
not checked. A given setting is checked by its rule:

* flags (`enabled`, `metadata_count_msg_offsets`): a text is true exactly when,
  stripped and lowered, it is `true` or `1`; other values are converted as flags;
* `brokers`: a text is split at commas and each piece stripped, empty pieces kept;
  a list must hold texts;
* `topics`: a text is split the same way; the items that count as false are
  dropped and equal items merged, the remaining items must be texts, and the set
  is kept sorted; an item that is itself a list or mapping cannot be an element of
  a set, which fails the whole load;
* `retry_max_attempts`: a blank text means no limit;
* numbers are converted and compared with their bounds.

Every bad setting is reported, in declaration order.
-/

namespace PublishPool

open PublishPool.Schema PublishPool.Text

/-- Where raw settings come from: environment entries and keyword values. -/
structure Sources where
  env : List (String × String) := []
  keywords : List (String × Value) := []

namespace Sources

/-- The environment entry of a setting: the last one named `KAFKA_<name>` in any case. -/
def fromEnv (src : Sources) (name : String) : Option String :=
  (src.env.reverse.find? fun e => lower e.1 == "kafka_" ++ name).map (·.2)

/-- The keyword value of a setting: the last one whose name, lowered, is the
setting's name. -/
def fromKeywords (src : Sources) (name : String) : Option Value :=
  (src.keywords.reverse.find? fun e => lower e.1 == name).map (·.2)

/-- The raw value of a setting: a keyword value first, then the environment. -/
def raw (src : Sources) (name : String) : Option Value :=
  match src.fromKeywords name with
  | some v => some v
  | none => (src.fromEnv name).map .str

end Sources

namespace Settings

/-- A flag setting: texts `true` and `1` (stripped, any case) are true, other texts
false, other values converted as flags. -/
def flag : Value → Except Issue.Kind Bool
  | .str s => .ok (lower (strip s) == "true" || lower (strip s) == "1")
  | v => Schema.bool v

/-- An integer with optional lower and upper bounds, each with its printed form. -/
def boundedInt (atLeast : Option (Int × String)) (atMost : Option (Int × String))
    (v : Value) : Except Issue.Kind Int := do
  let n ← Schema.int v
  if let some (lo, t) := atLeast then
    if n < lo then throw (.greaterThanEqual t)
  if let some (hi, t) := atMost then
    if hi < n then throw (.lessThanEqual t)
  return n

/-- A positive integer. -/
def positiveInt (v : Value) : Except Issue.Kind Nat := do
  let n ← Schema.int v
  if n ≤ 0 then throw (.greaterThan "0")
  return n.toNat

/-- A double above a bound (NaN is never above). -/
def floatAbove (bound : Float) (printed : String) (v : Value) : Except Issue.Kind Float := do
  let x ← Schema.float v
  if x > bound then return x else throw (.greaterThan printed)

/-- A double at least a bound (NaN never is). -/
def floatAtLeast (bound : Float) (printed : String) (v : Value) : Except Issue.Kind Float := do
  let x ← Schema.float v
  if x ≥ bound then return x else throw (.greaterThanEqual printed)

/-- The broker list. -/
def brokerList : Value → Checked (List String)
  | .str s => .ok (splitCsv s)
  | .list xs => Schema.items Schema.text xs
  | _ => .error [{ kind := .listType, loc := [] }]

/-- Texts in increasing order of code points. -/
def sortTexts (xs : List String) : List String :=
  xs.mergeSort fun a b => decide (a ≤ b)

/-- Texts without repeats. -/
def dedupTexts (xs : List String) : List String :=
  xs.foldl (fun acc x => if acc.contains x then acc else acc ++ [x]) []

/-- The topic set. A list or mapping among the kept items fails the load. -/
def topicSet : Value → Except Fault (Checked (List String))
  | .str s => .ok (.ok (sortTexts (dedupTexts ((splitCsv s).filter (!·.isEmpty)))))
  | .list xs =>
    let kept := xs.filter Value.truthy
    match kept.find? (!·.keyable) with
    | some bad => .error (.raised .typeMismatch ("unhashable type: '" ++ bad.typeName ++ "'"))
    | none => .ok ((Schema.items Schema.text (Value.distinct kept)).map (sortTexts ∘ dedupTexts))
  | _ => .ok (.error [{ kind := .setType, loc := [] }])

/-- The attempt limit: a blank text or nothing means none, else an integer ≥ 1. -/
def attemptLimit : Value → Except Issue.Kind (Option Nat)
  | .none => .ok none
  | .str s =>
    if (strip s).isEmpty then .ok none
    else (boundedInt (some (1, "1")) none (.str s)).map fun n => some n.toNat
  | v => (boundedInt (some (1, "1")) none v).map fun n => some n.toNat

/-- A setting with a plain rule: its default when not given, else checked. -/
def field {α : Type} (src : Sources) (name : String) (default : α)
    (rule : Value → Except Issue.Kind α) : Checked α :=
  match src.raw name with
  | none => .ok default
  | some v => atField name (rule v)

/-- The issues of a checked value. -/
def issuesOf {α : Type} : Checked α → List Issue
  | .ok _ => []
  | .error is => is

/-- The broker list: none when not given, else checked. -/
def brokersField (src : Sources) : Checked (List String) :=
  match src.raw "brokers" with
  | none => .ok ({} : Settings).brokers
  | some v => under "brokers" (brokerList v)

/-- The topic set: none when not given, else checked; an item that cannot be a set
element fails at once. -/
def topicsField (src : Sources) : Except Fault (Checked (List String)) :=
  match src.raw "topics" with
  | none => pure (.ok ({} : Settings).topics)
  | some v => (topicSet v).map (under "topics")

/-- Checks every given setting and builds the settings, or reports every issue in
declaration order; a topic item that cannot be a set element fails at once. -/
def load (src : Sources) : Except Fault Settings := do
  let d : Settings := {}
  let topics ← topicsField src
  let enabled := field src "enabled" d.enabled flag
  let logLabel := field src "log_label" d.logLabel fun v => Value.str <$> Schema.text v
  let numThreads := field src "num_threads" (d.numThreads : Int)
    (boundedInt (some (1, "1")) (some (255, "255")))
  let brokers := brokersField src
  let tlsKey := field src "tls_client_key" d.tlsClientKey Schema.text
  let tlsCert := field src "tls_client_cert" d.tlsClientCert Schema.text
  let tlsCa := field src "tls_client_ca" d.tlsClientCa Schema.text
  let timeoutMs := field src "message_timeout_ms" d.messageTimeoutMs positiveInt
  let retryInterval := field src "publish_retry_interval_sec" d.publishRetryIntervalSec
    (floatAbove 0.001 "0.001")
  let idleInterval := field src "publish_idle_interval_sec" d.publishIdleIntervalSec
    (floatAbove 0.001 "0.001")
  let batch := field src "max_batch_size" (d.maxBatchSize : Int) (boundedInt (some (1, "1")) none)
  let lockTimeout := field src "lock_timeout_sec" d.lockTimeoutSec (floatAbove 0 "0")
  let attempts := field src "retry_max_attempts" d.retryMaxAttempts attemptLimit
  let multiplier := field src "retry_backoff_multiplier" d.retryBackoffMultiplier
    (floatAtLeast 1 "1")
  let maxInterval := field src "retry_max_interval_sec" d.retryMaxIntervalSec (floatAbove 0 "0")
  let countOffsets := field src "metadata_count_msg_offsets" d.metadataCountMsgOffsets flag
  let metadataTimeout := field src "metadata_timeout_sec" d.metadataTimeoutSec (floatAbove 0 "0")
  let watermarkTimeout := field src "watermark_timeout_sec" d.watermarkTimeoutSec
    (floatAbove 0 "0")
  let issues := issuesOf enabled ++ issuesOf logLabel ++ issuesOf numThreads ++
    issuesOf brokers ++ issuesOf topics ++ issuesOf tlsKey ++ issuesOf tlsCert ++
    issuesOf tlsCa ++ issuesOf timeoutMs ++ issuesOf retryInterval ++ issuesOf idleInterval ++
    issuesOf batch ++ issuesOf lockTimeout ++ issuesOf attempts ++ issuesOf multiplier ++
    issuesOf maxInterval ++ issuesOf countOffsets ++ issuesOf metadataTimeout ++
    issuesOf watermarkTimeout
  match enabled, logLabel, numThreads, brokers, topics, tlsKey, tlsCert, tlsCa, timeoutMs,
      retryInterval, idleInterval, batch, lockTimeout, attempts, multiplier, maxInterval,
      countOffsets, metadataTimeout, watermarkTimeout with
  | .ok enabled, .ok logLabel, .ok numThreads, .ok brokers, .ok topics, .ok tlsKey,
      .ok tlsCert, .ok tlsCa, .ok timeoutMs, .ok retryInterval, .ok idleInterval, .ok batch,
      .ok lockTimeout, .ok attempts, .ok multiplier, .ok maxInterval, .ok countOffsets,
      .ok metadataTimeout, .ok watermarkTimeout =>
    pure { enabled, logLabel, numThreads := numThreads.toNat, brokers, topics,
           tlsClientKey := tlsKey, tlsClientCert := tlsCert, tlsClientCa := tlsCa,
           messageTimeoutMs := timeoutMs, publishRetryIntervalSec := retryInterval,
           publishIdleIntervalSec := idleInterval, maxBatchSize := batch.toNat,
           lockTimeoutSec := lockTimeout, retryMaxAttempts := attempts,
           retryBackoffMultiplier := multiplier, retryMaxIntervalSec := maxInterval,
           metadataCountMsgOffsets := countOffsets, metadataTimeoutSec := metadataTimeout,
           watermarkTimeoutSec := watermarkTimeout }
  | _, _, _, _, _, _, _, _, _, _, _, _, _, _, _, _, _, _, _ => throw (.invalid issues)

/-- Settings from the environment alone. A `label` that counts as true replaces the
log label, unchecked, unless the environment gives one. -/
def fromEnvironment (env : List (String × String)) (label : Value) :
    Except Fault Settings := do
  let src : Sources := { env }
  let s ← load src
  if label.truthy && (src.fromEnv "log_label").isNone then pure { s with logLabel := label }
  else pure s

end Settings

end PublishPool
