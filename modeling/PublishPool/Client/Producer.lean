import PublishPool.Fault
import PublishPool.Value.Key

/-!
A scripted producer.

The broker behind a producer is given as a script: one `Producer.Step` per
produced message, in order, and once the script is used up every message is
delivered. A step either makes `produce` fail, with one of the client's errors or
with a name that stands for none of them (looking the name up is then what fails),
or says how the message fares:

* `ok`: delivered; its delivery report says success at the next flush;
* `fail code`: its report carries the error code, any value, where a code that
  counts as false reads as -1;
* `okRemaining`: reported delivered, yet still counted as undelivered;
* `lost`: no report, still undelivered;
* `lostPurgeError`: like `lost`, and purging fails while it is pending, so it
  stays pending for good;
* `okHoldLock`: like `ok`, and while producing another party takes the work-queue
  lock and keeps it;
* `flushFails f`: no report, and a flush that finds the message in flight raises
  `f` (a client error that the scripted client of the tests never raises).

A flush fires the reports of the messages produced since the last flush and
answers how many messages are undelivered; the undelivered ones wait for a purge,
which drops them all unless one of them makes purging fail. A flush that raises
fires no report, and the messages it found in flight are gone.
-/

namespace PublishPool

/-- How the broker treats one produced message. -/
inductive Delivery where
  | ok
  | fail (code : Value)
  | okRemaining
  | lost
  | lostPurgeError
  | okHoldLock
  | flushFails (f : Fault)
  deriving Inhabited

namespace Delivery

/-- The status a message's delivery report gives at flush, if it gives one: zero
for success; an error code, with a code that counts as false read as -1. -/
def status? : Delivery → Option Value
  | .ok | .okHoldLock | .okRemaining => some (.int 0)
  | .fail c => some (if c.truthy then c else .int (-1))
  | .lost | .lostPurgeError | .flushFails _ => none

/-- The error a flush raises while the message is in flight, if any. -/
def flushFault? : Delivery → Option Fault
  | .flushFails f => some f
  | _ => none

/-- Whether another party takes the queue lock while the message is produced. -/
def holdsLock : Delivery → Bool
  | .okHoldLock => true
  | _ => false

/-- Whether the message makes purging fail while it is pending. -/
def failsPurge : Delivery → Bool
  | .lostPurgeError => true
  | _ => false

/-- Whether the message still counts as undelivered after a flush. -/
def remains : Delivery → Bool
  | .okRemaining | .lost | .lostPurgeError => true
  | _ => false

end Delivery

/-- How `produce` fails: with one of the client's errors, or with a name that
stands for none of them. -/
inductive ProduceFailure where
  | broker
  | bufferFull
  | typeMismatch
  | badValue
  | runtime
  | unknown (name : Value)
  deriving Inhabited

/-- The error a failing `produce` raises. -/
def ProduceFailure.fault : ProduceFailure → Fault
  | .broker => .raised .broker "fake produce failure"
  | .bufferFull => .raised .bufferFull "fake queue full"
  | .typeMismatch => .raised .typeMismatch "fake type error"
  | .badValue => .raised .badValue "fake value error"
  | .runtime => .raised .runtime "fake runtime error"
  | .unknown name =>
    if name.keyable then .raised .key name.literal
    else .raised .typeMismatch ("unhashable type: '" ++ name.typeName ++ "'")

/-- One entry of a producer script. -/
inductive Producer.Step where
  | deliver (d : Delivery)
  | failWith (f : ProduceFailure)
  deriving Inhabited

/-- A producer: what is left of its script, the messages produced since the last
flush, and the messages still undelivered. -/
structure Producer where
  script : List Producer.Step := []
  inFlight : List Delivery := []
  backlog : List Delivery := []
  deriving Inhabited

namespace Producer

/-- Takes the next script step; an exhausted script delivers. -/
def next (p : Producer) : Producer.Step × Producer :=
  match p.script with
  | [] => (.deliver .ok, p)
  | s :: rest => (s, { p with script := rest })

/-- Produces one message, using up a script step: the step's failure, or how the
message fares, now that it is in flight. -/
def produce (p : Producer) : Producer × Except ProduceFailure Delivery :=
  match p.next with
  | (.failWith f, p') => (p', .error f)
  | (.deliver d, p') => ({ p' with inFlight := p'.inFlight ++ [d] }, .ok d)

/-- Fires the reports of the messages in flight and answers the number of
undelivered messages; the first message in flight that makes flushing fail makes it
raise instead. Either way nothing stays in flight. -/
def flush (p : Producer) : Except Fault Nat × Producer :=
  match p.inFlight.findSome? Delivery.flushFault? with
  | some f => (.error f, { p with inFlight := [] })
  | none =>
    let backlog := p.backlog ++ p.inFlight.filter Delivery.remains
    (.ok backlog.length, { p with inFlight := [], backlog })

/-- The error of a purge that cannot drop a pending message. -/
def purgeFault : Fault := .raised .broker "fake purge failure"

/-- Drops the undelivered messages, unless one of them makes purging fail. -/
def purge (p : Producer) : Except Fault Producer :=
  if p.backlog.any Delivery.failsPurge then .error purgeFault else .ok { p with backlog := [] }

end Producer

end PublishPool
