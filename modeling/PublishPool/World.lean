import PublishPool.WorkQueue
import PublishPool.Client.Producer
import PublishPool.Client.Event
import PublishPool.Worker.Metrics
import PublishPool.Log

/-!
The world a pool runs in.

A `World` holds what the pool's steps share and what they leave behind: the work
queue, the stop signal, the producer of the worker that is running, what happens
during that worker's idle waits, the counters it keeps, and the events and log
lines produced so far, oldest first. The counters live here so that a run cut
short by an error still shows what it counted.

`Act` is a step of the pool's code: it reads and changes the world and may fail
with a `Fault`; the world changes made before a failure are kept.
-/

namespace PublishPool

/-- What an idle wait brings when nobody has set the stop signal. -/
inductive IdleStep where
  /-- Another party offers a batch of messages to the queue: a sequence of message
  documents that is read and checked only then. -/
  | offer (batch : Value)
  /-- Another party gives the queue lock back. -/
  | releaseLock
  /-- Another party sets the stop signal. -/
  | setStop
  /-- Whoever runs the worker stops it, once nothing else is to happen: the stop
  signal is set, and this is noted. -/
  | halt
  deriving Inhabited

/-- The shared state of a pool and the record of what happened. -/
structure World where
  queue : WorkQueue
  stopSet : Bool := false
  producer : Producer := {}
  idle : List IdleStep := []
  metrics : Metrics := {}
  trace : List Event := []
  log : List LogLine := []
  deriving Inhabited

/-- A step of the pool's code. -/
abbrev Act := ExceptT Fault (StateM World)

namespace Act

/-- Runs a step from a world: its result or fault, and the world after it. -/
def exec {α : Type} (x : Act α) (s : World) : Except Fault α × World := x.run.run s

/-- Records an event. -/
def record (e : Event) : Act Unit :=
  modify fun w => { w with trace := w.trace ++ [e] }

/-- Logs an error line. -/
def logError (text : String) : Act Unit :=
  modify fun w => { w with log := w.log ++ [LogLine.err text] }

/-- Logs a warning line. -/
def logWarning (text : String) : Act Unit :=
  modify fun w => { w with log := w.log ++ [LogLine.warn text] }

/-- Changes the work queue. -/
def setQueue (q : WorkQueue) : Act Unit :=
  modify fun w => { w with queue := q }

/-- Changes the counters. -/
def count (f : Metrics → Metrics) : Act Unit :=
  modify fun w => { w with metrics := f w.metrics }

/-- The result of a step, or its fault, as a value; the world changes stay. -/
def attempt {α : Type} (x : Act α) : Act (Except Fault α) :=
  tryCatch (x.map Except.ok) (fun e => pure (Except.error e))

/-- Fails with a fault. -/
def fail {α : Type} (f : Fault) : Act α := throw f

/-- A computed result or fault as a step. -/
def ofResult {α : Type} : Except Fault α → Act α
  | .ok a => pure a
  | .error f => throw f

/-- Appends a batch to the queue; a batch the queue refuses logs the fault's
message. -/
def enqueue (msgs : List Message) : Act Nat := do
  match (← get).queue.enqueue msgs with
  | .ok (n, q) => setQueue q; pure n
  | .error f =>
    if WorkQueue.isRefusal f then logError f.message
    fail f

/-- Removes a front batch; with the lock busy it logs the timeout and gives none. -/
def drain (bound : Value) : Act (List Message) := do
  let q := (← get).queue
  match ← ofResult (q.drain bound) with
  | some (batch, q') => setQueue q'; pure batch
  | none => logError (Fault.lockTimeoutText q.lockTimeout); pure []

/-- Removes every message; with the lock busy it logs the timeout and gives none. -/
def drainAll : Act (List Message) := do
  let q := (← get).queue
  match ← ofResult q.drainAll with
  | some (batch, q') => setQueue q'; pure batch
  | none => logError (Fault.lockTimeoutText q.lockTimeout); pure []

/-- The queue length, read under the lock; a busy lock logs and fails. -/
def queueLength : Act Nat := do
  match (← get).queue.length with
  | .ok n => pure n
  | .error f =>
    if WorkQueue.isRefusal f then logError f.message
    fail f


/-! ### Running steps -/

section Exec

variable {α β : Type}

@[simp] theorem exec_pure (a : α) (s : World) : exec (pure a) s = (.ok a, s) := rfl

@[simp] theorem exec_get (s : World) : exec get s = (.ok s, s) := rfl

@[simp] theorem exec_modify (f : World → World) (s : World) :
    exec (modify f) s = (.ok (), f s) := rfl

@[simp] theorem exec_throw (e : Fault) (s : World) : exec (throw e : Act α) s = (.error e, s) :=
  rfl

/-- A sequence runs its second part from the world the first leaves, unless the
first failed. -/
theorem exec_bind (x : Act α) (f : α → Act β) (s : World) :
    exec (x >>= f) s = match exec x s with
      | (.ok a, s') => exec (f a) s'
      | (.error e, s') => (.error e, s') := by
  unfold exec ExceptT.run StateT.run
  simp only [bind, ExceptT.bind, ExceptT.mk, StateT.bind, ExceptT.bindCont]
  cases x s with
  | mk r s' => cases r <;> rfl

theorem exec_map (f : α → β) (x : Act α) (s : World) :
    exec (f <$> x) s = match exec x s with
      | (.ok a, s') => (.ok (f a), s')
      | (.error e, s') => (.error e, s') := by
  rw [map_eq_pure_bind, exec_bind]
  cases exec x s with
  | mk r s' => cases r <;> rfl

/-- A handler runs from the world the failed step left. -/
theorem exec_tryCatch (x : Act α) (h : Fault → Act α) (s : World) :
    exec (tryCatch x h) s = match exec x s with
      | (.ok a, s') => (.ok a, s')
      | (.error e, s') => exec (h e) s' := by
  show (ExceptT.tryCatch x h).run.run s = _
  simp only [ExceptT.tryCatch, ExceptT.run_mk, StateT.run_bind]
  unfold exec ExceptT.run
  cases StateT.run x s with
  | mk r s' => cases r <;> rfl

@[simp] theorem exec_bind_ok {x : Act α} {f : α → Act β} {s s' : World} {a : α}
    (h : exec x s = (.ok a, s')) : exec (x >>= f) s = exec (f a) s' := by
  rw [exec_bind, h]

@[simp] theorem exec_bind_error {x : Act α} {f : α → Act β} {s s' : World} {e : Fault}
    (h : exec x s = (.error e, s')) : exec (x >>= f) s = (.error e, s') := by
  rw [exec_bind, h]

/-- A caught step answers its own result or fault, from the world it leaves. -/
@[simp] theorem exec_attempt (x : Act α) (s : World) :
    exec (attempt x) s = (.ok (exec x s).1, (exec x s).2) := by
  have lifted : x.map Except.ok = (Except.ok <$> x : Act (Except Fault α)) := rfl
  unfold attempt
  rw [exec_tryCatch, lifted, exec_map]
  cases exec x s with
  | mk r s' => cases r <;> rfl

@[simp] theorem exec_record (e : Event) (s : World) :
    exec (record e) s = (.ok (), { s with trace := s.trace ++ [e] }) := rfl

@[simp] theorem exec_logError (text : String) (s : World) :
    exec (logError text) s = (.ok (), { s with log := s.log ++ [LogLine.err text] }) := rfl

@[simp] theorem exec_logWarning (text : String) (s : World) :
    exec (logWarning text) s = (.ok (), { s with log := s.log ++ [LogLine.warn text] }) := rfl

@[simp] theorem exec_setQueue (q : WorkQueue) (s : World) :
    exec (setQueue q) s = (.ok (), { s with queue := q }) := rfl

@[simp] theorem exec_count (f : Metrics → Metrics) (s : World) :
    exec (count f) s = (.ok (), { s with metrics := f s.metrics }) := rfl

@[simp] theorem exec_fail (f : Fault) (s : World) : exec (fail f : Act α) s = (.error f, s) := rfl

@[simp] theorem exec_ofResult (r : Except Fault α) (s : World) : exec (ofResult r) s = (r, s) := by
  cases r <;> rfl

/-- Enqueueing from a world: the queue's answer, and the refusal logged. -/
theorem exec_enqueue (msgs : List Message) (s : World) :
    exec (enqueue msgs) s = match s.queue.enqueue msgs with
      | .ok (n, q) => (.ok n, { s with queue := q })
      | .error f =>
        (.error f, if WorkQueue.isRefusal f then { s with log := s.log ++ [LogLine.err f.message] }
          else s) := by
  unfold enqueue
  rw [exec_bind, exec_get]
  dsimp only
  cases s.queue.enqueue msgs with
  | ok r => simp [exec_map]
  | error f => cases hf : WorkQueue.isRefusal f <;> simp [hf, exec_bind]

/-- Draining from a world: the front batch, or nothing with the busy lock logged. -/
theorem exec_drain (bound : Value) (s : World) :
    exec (drain bound) s = match s.queue.drain bound with
      | .ok (some (batch, q)) => (.ok batch, { s with queue := q })
      | .ok none =>
        (.ok [], { s with log := s.log ++ [LogLine.err (Fault.lockTimeoutText s.queue.lockTimeout)] })
      | .error f => (.error f, s) := by
  unfold drain
  rw [exec_bind, exec_get]
  dsimp only
  rw [exec_bind, exec_ofResult]
  cases s.queue.drain bound with
  | ok r => cases r <;> simp [exec_map]
  | error f => rfl

/-- Draining everything from a world. -/
theorem exec_drainAll (s : World) :
    exec drainAll s = match s.queue.drainAll with
      | .ok (some (batch, q)) => (.ok batch, { s with queue := q })
      | .ok none =>
        (.ok [], { s with log := s.log ++ [LogLine.err (Fault.lockTimeoutText s.queue.lockTimeout)] })
      | .error f => (.error f, s) := by
  unfold drainAll
  rw [exec_bind, exec_get]
  dsimp only
  rw [exec_bind, exec_ofResult]
  cases s.queue.drainAll with
  | ok r => cases r <;> simp [exec_map]
  | error f => rfl

/-- Reading the length from a world changes only the log. -/
theorem exec_queueLength (s : World) :
    exec queueLength s = match s.queue.length with
      | .ok n => (.ok n, s)
      | .error f =>
        (.error f, if WorkQueue.isRefusal f then { s with log := s.log ++ [LogLine.err f.message] }
          else s) := by
  unfold queueLength
  rw [exec_bind, exec_get]
  dsimp only
  cases s.queue.length with
  | ok n => simp
  | error f => cases hf : WorkQueue.isRefusal f <;> simp [hf, exec_bind]

end Exec

end Act

end PublishPool
