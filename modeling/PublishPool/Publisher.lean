import PublishPool.Worker.Run
import PublishPool.Metadata.Query

/-!
The publisher: what callers of the pool use.

Callers add messages to the work queue, drain it, ask for shutdown and read the
counters; they never touch the queue's lock themselves. When the pool is not
enabled, adding answers 0 and changes nothing, draining gives nothing, and
shutdown answers that the pool is off. Shutdown queues one Shutdown message,
which the workers pass on until all have stopped.

`Publisher.metrics` sums the counters of every worker run so far and lists them
by label; workers with one label share one entry, which shows the last of them.
The queue length it reports is read under the lock, so a held lock fails it.
-/

namespace PublishPool

open Act

/-- A worker as the publisher knows it: its label and its counters. -/
structure WorkerRecord where
  label : String
  metrics : Metrics
  deriving Inhabited

/-- The counters of a pool. -/
structure PoolMetrics where
  queued : Nat
  workersAlive : Nat
  sent : Nat
  failed : Nat
  dropped : Nat
  /-- The counters by worker label, first position and last value for a label
  used twice. -/
  workers : List (String × Metrics)
  deriving Inhabited

/-- The caller's handle on a pool: its settings and the workers it has run. -/
structure Publisher where
  settings : Settings
  workers : List WorkerRecord := []
  deriving Inhabited

namespace Publisher

/-- Entries keyed by text, each key first where it first appears and with the
value that appears last. -/
def byLabel (records : List WorkerRecord) : List (String × Metrics) :=
  records.foldl (fun acc r => Value.insertEntry acc r.label r.metrics) []

/-- Builds a Data message from raw fields and queues it; 0 when the pool is off,
before the fields are looked at. -/
def addData (p : Publisher) (topic key headers payload : Value) : Act Nat := do
  if !p.settings.enabled then return 0
  let m ← ofResult (Message.build [.str Message.Kind.data.name, topic, key, headers, payload])
  enqueue [m]

/-- Queues messages in order; 0 when the pool is off. -/
def addMessages (p : Publisher) (msgs : List Message) : Act Nat := do
  if !p.settings.enabled then return 0
  enqueue msgs

/-- Takes every queued message out; nothing when the pool is off. -/
def drainMessages (p : Publisher) : Act (List Message) := do
  if !p.settings.enabled then return []
  drainAll

/-- The answer of a shutdown request when the pool is on. -/
def shutdownStarted : String := "shutdown started"

/-- The answer of a shutdown request when the pool is off. -/
def notEnabled : String := "kafka not enabled"

/-- Asks every worker to stop by queueing one Shutdown message. -/
def shutdown (p : Publisher) : Act String := do
  if !p.settings.enabled then return notEnabled
  let _ ← enqueue [Message.shutdownSignal]
  pure shutdownStarted

/-- The pool's counters; no worker runs on its own here, so none is alive. -/
def metrics (p : Publisher) : Act PoolMetrics := do
  let workers := byLabel p.workers
  let queued ← queueLength
  let ms := p.workers.map (·.metrics)
  let total (f : Metrics → Nat) : Nat := (ms.map f).foldr (· + ·) 0
  pure { queued, workersAlive := 0, sent := total (·.published), failed := total (·.publishFailures),
         dropped := total Metrics.totalDropped, workers }

/-- Waits until every worker has stopped, giving up `timeout` seconds from now, or
never when no timeout is given. The workers a publisher knows ran to their end
before it is asked, so all have stopped; only the deadline, the clock's reading as
a double plus the timeout, can fail: for a timeout that is not a number, or an
integer beyond the largest double. -/
def waitForShutdown (timeout : Value) : Except Fault Bool :=
  match timeout with
  | .none => .ok true
  | v => match Num.ofValue? v with
    | some n => (Num.add (.float 0) n).map fun _ => true
    | none => .error (Fault.operandTypes "+" "float" v.typeName)

/-- The metadata report through the pool's own client. -/
def metadata (p : Publisher) (cluster : Cluster) (fetchOffsets : Option Bool)
    (topic : Value) : Act (Option ClusterDetails) :=
  Metadata.ofPool p.settings cluster fetchOffsets topic

end Publisher

end PublishPool
