import PublishPool.Publisher

/-!
Sessions: a publisher, its queue and its workers driven one step at a time.

A session holds one publisher over one work queue and one stop signal, which
persist from step to step, and the threshold at which log lines are captured.
Each step is a call of the publisher, of the queue itself, or a worker run to
its end (`Session.runWorker`). A step answers its result or its fault, the lines
it logged that the threshold keeps, and the number of queued messages after it,
counted without the lock.

The messages and fields a step carries are documents: their tagged objects are
read and the messages checked before anything else happens, also when the pool is
off.
-/

namespace PublishPool

open Act

/-- How a worker run goes: its number, its producer's script, its idle waits, its
retry policy (the settings' one when none is given) and how its producer is made. -/
structure WorkerRun where
  threadNum : Value := .int 0
  script : List Producer.Step := []
  idle : List IdleStep := []
  policy : Option RetryPolicy := none
  factory : Factory := .works
  deriving Inhabited

/-- A worker after its run. -/
structure WorkerReport where
  label : String
  terminated : Bool
  metrics : Metrics
  stopSet : Bool
  trace : List Event
  /-- The fault the run passed on, if any. -/
  raised : Option Fault
  deriving Inhabited

/-- One step of a session. -/
inductive Step where
  | addData (topic key headers payload : Value)
  | addMessage (msg : Value)
  | addMessages (msgs : Value)
  | enqueue (msgs : Value)
  | drainMessages
  | drain (bound : Value)
  | drainAll
  | length
  | shutdown
  | holdLock
  | releaseLock
  | isEnabled
  | stopSet
  | metrics
  | waitForShutdown (timeout : Value)
  | setLogLevel (level : Value)
  | metadata (cluster : Value) (fetchOffsets : Option Bool) (topic : Value)
  | runWorker (run : WorkerRun)
  deriving Inhabited

/-- What a step answers. -/
inductive Reply where
  | count (n : Nat)
  | flag (b : Bool)
  | text (s : String)
  | messages (msgs : List Message)
  | metrics (m : PoolMetrics)
  | worker (r : WorkerReport)
  | metadata (details : Option ClusterDetails) (trace : List Event)
  | level (s : Severity)
  deriving Inhabited

/-- A step's answer: its result or fault, its captured log lines and the queue
length after it. -/
structure StepAnswer where
  result : Except Fault Reply
  logs : List LogLine
  queueLength : Nat
  deriving Inhabited

/-- The state of a session. -/
structure Session where
  publisher : Publisher
  world : World
  threshold : Severity := .warning
  deriving Inhabited

namespace Session

/-- A new session for settings: an empty queue with the settings' lock timeout. -/
def start (s : Settings) : Session :=
  { publisher := { settings := s }, world := { queue := { lockTimeout := s.lockTimeoutSec } } }

/-- Reads and checks a sequence of message documents in order; the first bad one is
the fault. -/
def checkMessages (docs : Value) : Except Fault (List Message) := do
  let items ← Value.iterate docs
  items.mapM Message.ofDocument

/-- Creates a worker, adds it to the publisher and runs it to its end. -/
def runWorker (p : Publisher) (spec : WorkerRun) : Act (Publisher × WorkerReport) := do
  let policy := spec.policy.getD (RetryPolicy.ofSettings p.settings)
  let created ← ofResult (Worker.create spec.threadNum p.settings policy)
  -- the session's sleeps are recorded, and once its idle script is used up the session
  -- stops the worker
  let w := { created with clock := .recorder }
  modify fun s =>
    { s with producer := { script := spec.script }, idle := spec.idle ++ [.halt], metrics := {} }
  let outcome ← attempt (w.run spec.factory)
  let s ← get
  let p' := { p with workers := p.workers ++ [{ label := w.label, metrics := s.metrics }] }
  pure (p', { label := w.label, terminated := true, metrics := s.metrics, stopSet := s.stopSet,
              trace := s.trace, raised := match outcome with
                | .ok _ => none
                | .error f => some f })

/-- Runs one step on the publisher; answers the publisher after it, the new
threshold if the step sets one, and the reply. -/
def act (p : Publisher) : Step → Act (Publisher × Option Severity × Reply)
  | .addData topic key headers payload => do
    let topic ← ofResult (Json.untag topic)
    let key ← ofResult (Json.untag key)
    let headers ← ofResult (Json.untag headers)
    let payload ← ofResult (Json.untag payload)
    let n ← p.addData topic key headers payload
    pure (p, none, .count n)
  | .addMessage raw => do
    let m ← ofResult (Message.ofDocument raw)
    let n ← p.addMessages [m]
    pure (p, none, .count n)
  | .addMessages raw => do
    let ms ← ofResult (checkMessages raw)
    let n ← p.addMessages ms
    pure (p, none, .count n)
  | .enqueue raw => do
    let ms ← ofResult (checkMessages raw)
    let n ← Act.enqueue ms
    pure (p, none, .count n)
  | .drainMessages => do
    let ms ← p.drainMessages
    pure (p, none, .messages ms)
  | .drain bound => do
    let ms ← Act.drain bound
    pure (p, none, .messages ms)
  | .drainAll => do
    let ms ← Act.drainAll
    pure (p, none, .messages ms)
  | .length => do
    let n ← queueLength
    pure (p, none, .count n)
  | .shutdown => do
    let t ← p.shutdown
    pure (p, none, .text t)
  | .holdLock => do
    let (got, q) := (← get).queue.hold
    setQueue q
    pure (p, none, .flag got)
  | .releaseLock => do
    let (was, q) := (← get).queue.release
    setQueue q
    pure (p, none, .flag was)
  | .isEnabled => pure (p, none, .flag p.settings.enabled)
  | .stopSet => do pure (p, none, .flag (← get).stopSet)
  | .metrics => do
    let m ← p.metrics
    pure (p, none, .metrics m)
  | .waitForShutdown timeout => do
    let done ← ofResult (Publisher.waitForShutdown timeout)
    pure (p, none, .flag done)
  | .setLogLevel name => do
    let sev ← ofResult (Severity.ofLevel name)
    pure (p, some sev, .level sev)
  | .metadata doc fetchOffsets topic => do
    let cluster ← ofResult (Cluster.ofDocument doc)
    let details ← p.metadata cluster fetchOffsets topic
    pure (p, none, .metadata details (← get).trace)
  | .runWorker spec => do
    let (p', report) ← runWorker p spec
    pure (p', none, .worker report)

/-- Runs one step: the answer and the session after it. -/
def step (sess : Session) (st : Step) : StepAnswer × Session :=
  let w := { sess.world with trace := [], log := [] }
  let (outcome, w') := (act sess.publisher st).run.run w
  let threshold := match outcome with
    | .ok (_, some sev, _) => sev
    | _ => sess.threshold
  let publisher := match outcome with
    | .ok (p, _, _) => p
    | .error _ => sess.publisher
  let answer : StepAnswer :=
    { result := outcome.map (·.2.2), logs := threshold.capture w'.log,
      queueLength := w'.queue.items.length }
  (answer, { publisher, world := w', threshold })

/-- Runs steps in order; answers each step's answer. -/
def run (sess : Session) : List Step → List StepAnswer
  | [] => []
  | st :: rest =>
    let (answer, sess') := sess.step st
    answer :: run sess' rest

end Session

end PublishPool
