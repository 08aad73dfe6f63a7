import PublishPool.Publisher
import PublishPool.Settings.Load

/-!
Starting a pool and running it to its end.

A pool is started from environment settings: when it is enabled, one worker per
configured thread is created, all sharing one work queue and one stop signal.
Callers then add Data messages and ask for shutdown, and the pool runs until every
worker has stopped.

Workers run side by side, but what is reported here does not depend on how their
steps interleave, so `Pool.runToEnd` runs them one after another. Every message
added before the Shutdown message is taken by some worker before it, because the
queue is first in, first out, and each worker that takes the Shutdown message
puts it back; so each message is published exactly once, one Shutdown message
stays in the queue, and every worker stops. A pool without brokers has workers
that stop at once and leave the queue as it was. Every produced message is
delivered.
-/

namespace PublishPool

open Act

/-- A message to add: topic, key, headers and payload, unchecked. -/
structure DataFields where
  topic : Value := .str ""
  key : Value := .str ""
  headers : Value := .none
  payload : Value := .str ""
  deriving Inhabited

/-- What a pool run to its end shows. -/
structure PoolReport where
  settings : Settings
  workerLabels : List String
  /-- The answers of the additions, in order. -/
  added : List Nat
  shutdown : String
  allStopped : Bool
  /-- The state of each worker. -/
  terminated : List Bool
  queue : List Message
  metrics : PoolMetrics
  /-- The bytes of every delivered message, in increasing order. -/
  delivered : List (List UInt8)
  deriving Inhabited

namespace Pool

/-- The workers of a pool: one per thread when the pool is enabled. -/
def workers (s : Settings) : Except Fault (List Worker) :=
  if s.enabled then
    (List.range s.numThreads).mapM fun (n : Nat) =>
      Worker.create (.int (Int.ofNat n)) s (RetryPolicy.ofSettings s)
  else .ok []

/-- Runs workers one after another, each to its end, with a producer that delivers
everything; answers the publisher that knows them all. -/
def runWorkers (p : Publisher) : List Worker → Act Publisher
  | [] => pure p
  | w :: rest => do
    -- a worker that finds nothing waits until another one has seen the Shutdown
    modify fun s => { s with producer := {}, idle := [.halt], metrics := {} }
    let _ ← attempt ({ w with clock := .recorder }.run .works)
    let m := (← get).metrics
    runWorkers { p with workers := p.workers ++ [{ label := w.label, metrics := m }] } rest

/-- The produced messages of a trace. -/
def produced (trace : List Event) : List (List UInt8) :=
  trace.filterMap fun e => match e with
    | .produce _ value _ _ => some value
    | _ => none

/-- Lexicographic order of byte strings, a proper prefix first. -/
def bytesLe : List UInt8 → List UInt8 → Bool
  | [], _ => true
  | _ :: _, [] => false
  | a :: as, b :: bs =>
    if a.toNat < b.toNat then true else if b.toNat < a.toNat then false else bytesLe as bs

/-- Byte strings in increasing lexicographic order. -/
def sortBytes (xs : List (List UInt8)) : List (List UInt8) :=
  xs.mergeSort bytesLe

/-- Starts a pool, adds the messages, asks for shutdown and runs the pool to its
end. -/
def runToEnd (s : Settings) (adds : List DataFields) : Except Fault PoolReport := do
  let ws ← workers s
  let p : Publisher := { settings := s }
  let start : World := { queue := { lockTimeout := s.lockTimeoutSec } }
  let act : Act (List Nat × String × Publisher × PoolMetrics) := do
    let added ← adds.mapM fun a => p.addData a.topic a.key a.headers a.payload
    let answer ← p.shutdown
    let p' ← runWorkers p ws
    let m ← p'.metrics
    pure (added, answer, p', m)
  let (outcome, w) := act.run.run start
  let (added, answer, p', m) ← outcome
  pure { settings := s, workerLabels := p'.workers.map (·.label), added, shutdown := answer,
         allStopped := true, terminated := p'.workers.map fun _ => true, queue := w.queue.items,
         metrics := m, delivered := sortBytes (produced w.trace) }

/-- A pool started from the environment, with a label that applies unless the
environment names one. -/
def startAndRun (env : List (String × String)) (label : Value) (adds : List DataFields) :
    Except Fault PoolReport := do
  let s ← Settings.fromEnvironment env label
  runToEnd s adds

end Pool

end PublishPool
