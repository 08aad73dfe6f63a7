import PublishPool.Message
import PublishPool.Fault

/-!
The work queue shared by callers and workers.

The queue is a FIFO list of messages behind one lock. Every operation first asks
for the lock, waiting at most `lockTimeout` seconds (a positive number). A wait
the lock cannot measure, one of 2^63 nanoseconds or more (`waitOverflows`), fails
before anything else (`WorkQueue.acquire`). Another party may be holding the lock
(`held`), and then the operation cannot go on: enqueueing and counting fail with the timeout,
draining gives nothing. An operation that does not get the lock changes nothing.

Enqueueing appends a batch and answers the new length; an empty batch is refused
before the lock is asked for. Draining removes a front batch, as a slice of the
list with only an upper bound does: `drain n` takes the first `n` messages, where
a negative `n` leaves the last `|n|` messages and takes the rest
(`frontCount`); a bound of nothing takes everything, a flag counts as 0 or 1, and
any other bound is refused once the lock is taken.
-/

namespace PublishPool

/-- Nanoseconds a lock wait must stay below: 2^63. -/
def WorkQueue.maxWaitNanos : Float := 9223372036854775808.0

/-- The shared queue of pending messages. -/
structure WorkQueue where
  lockTimeout : Float
  /-- Whether a wait of `lockTimeout` is too long for the lock to measure; the
  timeout is fixed when the queue is made, and so is this. -/
  waitOverflows : Bool := decide (lockTimeout * 1000000000.0 ≥ WorkQueue.maxWaitNanos)
  items : List Message := []
  held : Bool := false
  deriving Inhabited

/-- What asking for the queue lock gives. -/
inductive LockRequest where
  /-- The lock was free and is now taken. -/
  | taken
  /-- Another party holds the lock for longer than the wait. -/
  | busy
  /-- The wait itself cannot be measured. -/
  | refused (f : Fault)
  deriving Inhabited

namespace WorkQueue

/-- The fault of a lock wait too long to measure. -/
def waitTooLong : Fault := .raised .overflow "timestamp too large to convert to C _PyTime_t"

/-- Asks for the lock with the queue's timeout. -/
def acquire (q : WorkQueue) : LockRequest :=
  if q.waitOverflows then .refused waitTooLong
  else if q.held then .busy
  else .taken

/-- How many messages a front batch with bound `n` takes from `len` messages: `n`
itself when it is not negative, else all but the last `|n|`, and never more than
there are. -/
def frontCount (n : Int) (len : Nat) : Nat :=
  if 0 ≤ n then Nat.min n.toNat len else len - n.natAbs

/-- The upper bound of a slice: an integer, a flag as 0 or 1, or nothing for no
bound. -/
def sliceBound : Value → Except Fault (Option Int)
  | .none => .ok none
  | .int n => .ok (some n)
  | .bool b => .ok (some (if b then 1 else 0))
  | _ => .error (.raised .typeMismatch
      "slice indices must be integers or None or have an __index__ method")

/-- Whether a fault is the queue refusing an operation, which it logs: an empty
batch or a lock it could not get in time. -/
def isRefusal : Fault → Bool
  | .emptyBatch | .lockTimeout _ => true
  | _ => false

/-- Appends a batch and answers the new length; an empty batch or a lock not
taken is a fault and leaves the queue as it was. -/
def enqueue (q : WorkQueue) (msgs : List Message) : Except Fault (Nat × WorkQueue) :=
  if msgs.isEmpty then .error .emptyBatch
  else match q.acquire with
    | .refused f => .error f
    | .busy => .error (.lockTimeout q.lockTimeout)
    | .taken =>
      let items := q.items ++ msgs
      .ok (items.length, { q with items })

/-- Removes the front batch with a bound; `none` when the lock is busy. -/
def drain (q : WorkQueue) (bound : Value) : Except Fault (Option (List Message × WorkQueue)) :=
  match q.acquire with
  | .refused f => .error f
  | .busy => .ok none
  | .taken => do
    let k := match ← sliceBound bound with
      | some n => frontCount n q.items.length
      | none => q.items.length
    pure (some (q.items.take k, { q with items := q.items.drop k }))

/-- Removes every message; `none` when the lock is busy. -/
def drainAll (q : WorkQueue) : Except Fault (Option (List Message × WorkQueue)) :=
  match q.acquire with
  | .refused f => .error f
  | .busy => .ok none
  | .taken => .ok (some (q.items, { q with items := [] }))

/-- The number of queued messages, read under the lock. -/
def length (q : WorkQueue) : Except Fault Nat :=
  match q.acquire with
  | .refused f => .error f
  | .busy => .error (.lockTimeout q.lockTimeout)
  | .taken => .ok q.items.length

/-- Takes the lock for another party without waiting; answers whether it was free. -/
def hold (q : WorkQueue) : Bool × WorkQueue :=
  if q.held then (false, q) else (true, { q with held := true })

/-- Gives the lock back; answers whether it was held. -/
def release (q : WorkQueue) : Bool × WorkQueue :=
  (q.held, { q with held := false })

end WorkQueue

end PublishPool
