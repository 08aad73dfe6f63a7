import PublishPool.World
import PublishPool.Payload

/-!
Publishing one message and reading its delivery status.

`publishOne` writes the payload and encodes the key, produces the message and
flushes the producer. The status is the one the message's own delivery report gave
during the flush: zero for success, the error code otherwise (-1 for a code that
counts as false, so a failure never reads as zero); -1 also when no report came, or
when writing, encoding, producing or flushing failed with an error the client is
expected to raise (broker, full buffer, bad type or value), which is logged. Any
other error of `produce` or of the flush is passed on. When the flush leaves messages
undelivered this is logged and a purge of the queued ones follows; a failing purge
is only logged.

Headers are converted before that, outside the publish: a text value that cannot be
encoded fails the conversion (`convertHeaders`).
-/

namespace PublishPool

open Act

/-- Headers as the client takes them, in order, each a name and a value: text
values as UTF-8 bytes, other values as they are; no headers give none. A text value
without a UTF-8 form fails the conversion. -/
def convertHeaders (headers : Option (List (String × Value))) : Except Fault (List (List Value)) :=
  match headers with
  | none => .ok []
  | some hs => hs.mapM fun (k, v) => match v with
    | .str s => (fun bytes => [.str k, .bytes bytes]) <$> Text.encode s
    | other => .ok [.str k, other]

/-- The status reported when no delivery report came or producing failed. -/
def deliveryFailed : Value := .int (-1)

/-- Whether publishing catches an error: a broker error, a full buffer, a bad type
or a bad value, a text that cannot be encoded among them. -/
def Fault.caughtOnPublish : Fault → Bool
  | .raised .broker _ | .raised .bufferFull _ | .raised .typeMismatch _
  | .raised .badValue _ | .raised .unicodeEncode _ => true
  | _ => false

/-- Whether a failure of `produce` is one the caller expects and handles, by the
class of the error it raises: a name that stands for no error and cannot be a key
fails its lookup with a type error, which is caught like the others. -/
def ProduceFailure.expected (f : ProduceFailure) : Bool := f.fault.caughtOnPublish

/-- What a message is produced with: its payload's bytes, written first, and its
key's bytes, none for an empty key. -/
def Message.wireForm (m : Message) : Except Fault (List UInt8 × Option (List UInt8)) := do
  let value ← m.payload.toValue.wireBytes
  let key ← if m.key.isEmpty then pure none else some <$> Text.encode m.key
  pure (value, key)

/-- Flushes with a timeout, then purges if messages stay undelivered; a failed purge
is only logged, and an error of the flush itself is passed on. -/
def flushAndPurge (timeout : Value) : Act Unit := do
  let (flushed, p) := (← get).producer.flush
  modify fun w => { w with producer := p }
  let remaining ← ofResult flushed
  record (.flush timeout remaining)
  if remaining > 0 then
    logError ("Failed to deliver " ++ toString remaining ++ " messages within " ++ timeout.display ++ "s")
    record (.purge true false)
    match (← get).producer.purge with
    | .ok p => modify fun w => { w with producer := p }
    | .error f => logError ("Failed to purge undelivered messages: " ++ f.message)

/-- A publish that failed before a report could come: logged, and answered with -1. -/
def produceFailed (m : Message) (text : String) : Act Value := do
  logError ("Failed to produce message to topic=" ++ m.topic ++ ": " ++ text)
  pure deliveryFailed

/-- Flushes for a produced message and reads its own delivery report: the status it
gave, or -1 when it gave none. A flush that raises an error publishing catches is a
failed publish, and any other error is passed on. -/
def awaitReport (m : Message) (d : Delivery) (timeout : Value) : Act Value := do
  match ← attempt (flushAndPurge timeout) with
  | .error f => if f.caughtOnPublish then produceFailed m f.message else fail f
  | .ok () => pure (d.status?.getD deliveryFailed)

/-- Publishes one message with already converted headers and waits for its
delivery report. -/
def publishOne (m : Message) (headers : List (List Value)) (timeout : Value) : Act Value := do
  match m.wireForm with
  | .error f => produceFailed m f.message
  | .ok (value, key) =>
    record (.produce m.topic value key (if headers.isEmpty then none else some headers))
    let (p, r) := (← get).producer.produce
    modify fun w => { w with producer := p }
    match r with
    | .error f => if f.expected then produceFailed m f.fault.message else fail f.fault
    | .ok d =>
      if d.holdsLock then modify fun w => { w with queue := { w.queue with held := true } }
      awaitReport m d timeout

end PublishPool
