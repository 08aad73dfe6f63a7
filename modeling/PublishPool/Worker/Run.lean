import PublishPool.Client.Publish
import PublishPool.Client.Settings
import PublishPool.Retry

/-!
The worker loop.

A worker first connects: with no broker it logs and stops, otherwise it creates
its producer, which may fail (logged, and the worker stops). Then it loops: it
drains a batch of at most `maxBatchSize` messages; an empty batch ends the loop
when the stop signal is set and otherwise means an idle wait; a nonempty batch is
handled front to back:

* a Shutdown message sets the stop signal and puts one copy of itself back on the
  queue, so that every other worker stops too (a refused copy is logged); the rest
  of the batch is dropped as `shutdown_remainder` and the loop ends;
* a Data or Sensitive message has its headers converted, which fails for a text
  that cannot be encoded, and is published with retries: each failed attempt is
  counted and logged, and while the retry policy allows another attempt the worker
  sleeps for the policy's delay, which its clock may refuse; a message that runs out
  of attempts is dropped as `retries_exhausted`;
* a broker-detail message is not supported: it and the rest of the batch are
  dropped as `not_implemented`, and the next batch follows;
* a message of a kind outside the five is logged, and it and the rest of the batch
  are dropped as `unsupported_kind`; the next batch follows.

Whatever ends the loop, the worker then flushes its producer once more and warns
about messages still undelivered; an error that ended the loop is passed on after
that, and an error of that flush is passed on in its place. An idle wait takes the next idle step: messages offered to the queue (a
refusal is recorded), the queue lock given back, or the stop signal set, also by
whoever runs the worker when nothing else is to happen (noted); with no idle step
left the wait only passes, and a loop that nothing stops runs on.

The loops are bounded by fuel computed from the world at the start: each round of
the outer loop drains at least one message, uses up an idle step or sets the stop
signal, and each publish attempt uses up a script step, delivers, or counts
against the attempt limit.
-/

namespace PublishPool

open Act

/-- How creating a worker's producer goes. -/
inductive Factory where
  /-- The producer is created. -/
  | works
  /-- The client raises a broker error after taking its settings. -/
  | brokerFailure
  /-- The factory reports that no connection is possible. -/
  | noConnection
  deriving DecidableEq, Repr

/-- How a worker takes the pause before a retry. -/
inductive Clock where
  /-- The system's sleep, which refuses a pause it cannot take. -/
  | system
  /-- A recorder in its place, which notes every pause and refuses none. -/
  | recorder
  deriving DecidableEq, Repr, Inhabited

namespace Clock

/-- Why the system's sleep refuses a pause, if it does: a value that is no number of
seconds, NaN, a pause of 2^63 nanoseconds or more either way (too long to measure, as
for a lock wait), or one below zero, checked in that order. A flag counts as 0 or 1. -/
def sleepFault? (pause : Value) : Option Fault :=
  let negative (below : Bool) : Option Fault :=
    if below then some (.raised .badValue "sleep length must be non-negative") else none
  match pause with
  | .bool _ => none
  | .int n =>
    if n * 1000000000 < -Int.pow 2 63 ∨ Int.pow 2 63 ≤ n * 1000000000 then
      some WorkQueue.waitTooLong
    else negative (decide (n < 0))
  | .float x =>
    if x.isNaN then some (.raised .badValue "Invalid value NaN (not a number)")
    else if x * 1000000000.0 < -WorkQueue.maxWaitNanos ∨
        WorkQueue.maxWaitNanos ≤ x * 1000000000.0 then some WorkQueue.waitTooLong
    else negative (decide (x < 0))
  | v => some (.raised .typeMismatch
      ("'" ++ v.typeName ++ "' object cannot be interpreted as an integer"))

/-- The error a clock refuses a pause with: the system's sleep refuses what it cannot
take, the recorder nothing. -/
def refusal? : Clock → Value → Option Fault
  | .system, pause => sleepFault? pause
  | .recorder, _ => none

end Clock

/-- A worker of the pool. -/
structure Worker where
  threadNum : Value
  /-- The worker's log label: the pool label and its one-based number. -/
  label : String
  settings : Settings
  policy : RetryPolicy
  /-- How long a publish waits for its delivery report: the message timeout in
  seconds plus one. -/
  publishTimeout : Num
  /-- How the worker pauses before a retry. -/
  clock : Clock := .system

namespace Worker

/-- A worker's number plus one. Texts, lists and byte strings cannot take an
integer, and other values add as numbers do. -/
def successor (threadNum : Value) : Except Fault Value :=
  match threadNum with
  | .str _ => .error (.raised .typeMismatch "can only concatenate str (not \"int\") to str")
  | .list _ => .error (.raised .typeMismatch "can only concatenate list (not \"int\") to list")
  | .bytes _ => .error (.raised .typeMismatch "can't concat int to bytes")
  | v => Num.toValue <$> Num.onValues "+" Num.add v (.int 1)

/-- A worker with a policy. Its label and publish timeout are computed here: the
label fails for a number that cannot be counted on from, the timeout can
overflow. -/
def create (threadNum : Value) (s : Settings) (policy : RetryPolicy) : Except Fault Worker := do
  let n ← successor threadNum
  let seconds ← Num.div (.int s.messageTimeoutMs) (.int 1000)
  let timeout ← Num.add seconds (.int 1)
  pure { threadNum, label := s.label ++ "-tid-" ++ n.display, settings := s, policy,
         publishTimeout := timeout }

/-- The warning a worker logs when it drops messages. -/
def dropText (label : String) (reason : DropReason) (n : Nat) : String :=
  label ++ " - dropped " ++ toString n ++ " msgs reason=" ++ reason.name

/-- Drops messages for a reason: counted and warned about. -/
def drop (w : Worker) (reason : DropReason) (n : Nat) : Act Unit := do
  count fun m => m.recordDrop reason n
  logWarning (dropText w.label reason n)

/-- Pauses before the next attempt: the pause is noted, unless the worker's clock
refuses it. -/
def sleep (w : Worker) (pause : Value) : Act Unit :=
  match w.clock.refusal? pause with
  | some f => fail f
  | none => record (.sleep pause)

/-- Connects: answers whether a producer was created. -/
def connect (w : Worker) (factory : Factory) : Act Bool := do
  let stopping (why : String) : Act Bool := do
    logError (w.label ++ " - failed to create producer: " ++ why ++ " - stopping thread")
    pure false
  if !w.settings.hasBrokers then
    logError (w.label ++ " - no brokers to connect to KAFKA_BROKERS=" ++
      Value.textListLiteral w.settings.brokers ++ " - stopping thread")
    return false
  if factory == .noConnection then return ← stopping "fake no connection"
  match w.settings.producerSettings with
  | .error f => stopping f.message
  | .ok cfg =>
    record (.producerCreated cfg)
    if factory == .brokerFailure then stopping "fake producer creation failure" else pure true

/-- The attempts the policy allows a message before it gives up, as far as it
bounds them: the limit itself, rounded up; none without a limit. -/
def attemptLimit (w : Worker) : Nat :=
  match Num.ofValue? w.policy.maxAttempts with
  | some (.int n) => n.toNat
  | some (.float x) => ((Number.toWhole? (Float.floor x)).getD 0).toNat + 1
  | none => 0

/-- The headers of a message as the client takes them; a value that cannot be
encoded fails. -/
def clientHeaders (m : Message) : Except Fault (List (List Value)) :=
  convertHeaders (m.headers.map fun hs => hs.map fun (k, v) => (k, .str v))

/-- Puts a copy of a Shutdown message back on the queue; a refusal is logged. -/
def requeueShutdown (w : Worker) (m : Message) : Act Unit := do
  match ← attempt (enqueue [m]) with
  | .ok _ => pure ()
  | .error f =>
    logError (w.label ++ " - failed to requeue shutdown message into queue with err=" ++ f.message)

/-- Where a worker is in its loop. -/
inductive Phase where
  /-- About to drain the next batch. -/
  | draining
  /-- The last batch came back empty: the stop signal decides what follows. -/
  | idle
  /-- Handling the rest of a drained batch, front to back. -/
  | handling (work : List Message)
  /-- Publishing `m` with its client headers after `made` failed attempts; `work`
  is the rest of the batch. -/
  | publishing (m : Message) (headers : List (List Value)) (made : Nat) (work : List Message)
  /-- A Shutdown message was taken and the stop signal set: a copy of it goes back
  on the queue next, and the rest of the batch `work` is dropped. -/
  | requeueing (m : Message) (work : List Message)
  /-- The loop has ended. -/
  | stopped
  deriving Inhabited

/-- Whether the loop has ended. -/
def Phase.isStopped : Phase → Bool
  | .stopped => true
  | _ => false

/-- One step of the loop. `wait` is the idle wait on the stop signal: time passes,
and other parties may act meanwhile. -/
def step (w : Worker) (wait : Act Unit) : Phase → Act Phase
  | .draining => do
    let batch ← drain (.int w.settings.maxBatchSize)
    pure (if batch.isEmpty then .idle else .handling batch)
  | .idle => do
    if (← get).stopSet then return .stopped
    wait
    pure .draining
  | .handling [] => pure .draining
  | .handling (m :: rest) =>
    match m.kind with
    | .shutdown => do
      modify fun s => { s with stopSet := true }
      pure (.requeueing m rest)
    | .data | .sensitive => do
      let headers ← ofResult (clientHeaders m)
      pure (.publishing m headers 0 rest)
    | .brokerDetails | .brokerTopicDetails => do
      w.drop .notImplemented (1 + rest.length)
      pure .draining
    | .unsupported shown => do
      logError (w.label ++ " - unsupported KafkaPublishMessageType=" ++ shown)
      w.drop .unsupportedKind (1 + rest.length)
      pure .draining
  | .publishing m headers made rest => do
    let status ← publishOne m headers w.publishTimeout.toValue
    let attempt := made + 1
    if status.isZero then
      count fun c => { c with published := c.published + 1 }
      return .handling rest
    count fun c => { c with publishFailures := c.publishFailures + 1 }
    logError (w.label ++ " - failed to publish delivery status=" ++ status.display ++
      " attempt=" ++ toString attempt ++ " msg=" ++ m.describe)
    if !(← ofResult (w.policy.shouldRetry (.int attempt))) then
      logError (w.label ++ " - giving up after " ++ toString attempt ++ " attempts msg=" ++
        m.describe)
      w.drop .retriesExhausted 1
      return .handling rest
    w.sleep (← ofResult (w.policy.delay (.int attempt)))
    pure (.publishing m headers attempt rest)
  | .requeueing m rest => do
    w.requeueShutdown m
    if !rest.isEmpty then
      logError (w.label ++ " - work batch NOT empty=" ++ toString rest.length)
      w.drop .shutdownRemainder rest.length
    pure .stopped
  | .stopped => pure .stopped

/-- Waits idle: the next idle step, if any is left; with none, the wait just passes. -/
def idleWait (w : Worker) : Act Unit := do
  record (.idle w.settings.publishIdleIntervalSec)
  if (← get).stopSet then return
  match (← get).idle with
  | [] => pure ()
  | step :: rest =>
    modify fun s => { s with idle := rest }
    match step with
    | .offer batch =>
      let offered : Act Nat := do
        let docs ← ofResult (Value.iterate batch)
        let msgs ← ofResult (docs.mapM Message.ofDocument)
        enqueue msgs
      match ← attempt offered with
      | .ok _ => pure ()
      | .error f => record (.idleEnqueueError f)
    | .releaseLock => modify fun s => { s with queue := { s.queue with held := false } }
    | .setStop => modify fun s => { s with stopSet := true }
    | .halt =>
      modify fun s => { s with stopSet := true }
      record .idleStop

/-- Steps the loop from a phase until it stops, at most `fuel` of them; a loop
still going after that would not end. -/
def loop (w : Worker) (wait : Act Unit) : Nat → Phase → Act Unit
  | 0, ph => if ph.isStopped then pure () else fail .endless
  | fuel + 1, ph => if ph.isStopped then pure () else do loop w wait fuel (← w.step wait ph)

/-- Steps enough for every run of the loop that ends, counted from the world at
its start. A message is drained once and handled in one step, plus one per
attempt: each attempt uses up a script step, delivers, or counts against the
attempt limit. An empty drain and its idle step use up an idle step or set the
stop signal. -/
def stepBudget (w : Worker) (s : World) : Nat :=
  let offered := s.idle.foldl (fun n step => match step with
    | .offer batch => n + ((Value.iterate batch).toOption.getD []).length
    | _ => n) 0
  (s.queue.items.length + offered + s.idle.length + 3) *
    (s.producer.script.length + w.attemptLimit + 6)

/-- The whole run of a worker: connect, loop, and the final flush. -/
def run (w : Worker) (factory : Factory) : Act Unit := do
  if !(← w.connect factory) then return
  let budget := w.stepBudget (← get)
  let outcome ← attempt (w.loop w.idleWait budget .draining)
  let (flushed, p) := (← get).producer.flush
  modify fun s => { s with producer := p }
  -- an error of this flush ends the run, in place of any error of the loop
  let remaining ← ofResult flushed
  record (.flush w.publishTimeout.toValue remaining)
  if remaining > 0 then
    logWarning (w.label ++ " - exiting with " ++ toString remaining ++
      " messages still in producer queue")
  ofResult outcome

end Worker

end PublishPool
