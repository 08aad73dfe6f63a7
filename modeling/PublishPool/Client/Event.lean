import PublishPool.Num

/-!
Events outside the pool's code.

Everything the pool does to the broker client and to time is recorded as an
`Event`, in order: clients created with their settings, messages produced,
flushes with the count still undelivered, purges, sleeps before a retry, idle
waits and what ended them, metadata queries and closing the client.
-/

namespace PublishPool

/-- One observable action of the pool on its surroundings. -/
inductive Event where
  /-- A producer was created with these client settings. -/
  | producerCreated (settings : List (String × Value))
  /-- A consumer was created with these client settings. -/
  | consumerCreated (settings : List (String × Value))
  /-- A message was handed to the producer. -/
  | produce (topic : String) (value : List UInt8) (key : Option (List UInt8))
      (headers : Option (List (List Value)))
  /-- The producer was flushed; `remaining` messages were still undelivered. -/
  | flush (timeout : Value) (remaining : Nat)
  /-- Undelivered messages were purged. -/
  | purge (inQueue inFlight : Bool)
  /-- A worker slept before retrying. -/
  | sleep (seconds : Value)
  /-- A worker waited idle. -/
  | idle (seconds : Float)
  /-- An idle wait ended by setting the stop signal. -/
  | idleStop
  /-- Messages offered to the queue during an idle wait were refused. -/
  | idleEnqueueError (f : Fault)
  /-- Cluster metadata was asked for. -/
  | listTopics (topic : Value) (timeout : Float)
  /-- Watermarks of a partition were asked for. -/
  | watermarks (topic : String) (partition : Value) (timeout : Float)
  /-- The client was closed. -/
  | close
  deriving Inhabited

namespace Event

/-- Headers as a list of entries, each a list of its parts. -/
def headerList (hs : List (List Value)) : Value := .list (hs.map .list)

/-- An event as a mapping: its name under `ev` and its details. -/
def dump : Event → Value
  | .producerCreated cfg => .dict [("ev", .str "producer_created"), ("config", .dict cfg)]
  | .consumerCreated cfg => .dict [("ev", .str "consumer_created"), ("config", .dict cfg)]
  | .produce topic value key headers =>
    .dict [("ev", .str "produce"), ("topic", .str topic), ("value", .bytes value),
           ("key", (key.map Value.bytes).getD .none),
           ("headers", (headers.map headerList).getD .none)]
  | .flush timeout remaining =>
    .dict [("ev", .str "flush"), ("timeout", timeout), ("remaining", .int remaining)]
  | .purge inQueue inFlight =>
    .dict [("ev", .str "purge"), ("in_queue", .bool inQueue), ("in_flight", .bool inFlight)]
  | .sleep seconds => .dict [("ev", .str "sleep"), ("sec", seconds)]
  | .idle seconds => .dict [("ev", .str "idle"), ("sec", .float seconds)]
  | .idleStop => .dict [("ev", .str "idle_stop")]
  | .idleEnqueueError f => .dict ([("ev", .str "idle_enqueue_error")] ++ f.dump)
  | .listTopics topic timeout =>
    .dict [("ev", .str "list_topics"), ("topic", topic),
           ("timeout", .float timeout)]
  | .watermarks topic partition timeout =>
    .dict [("ev", .str "watermarks"), ("topic", .str topic), ("partition", partition),
           ("timeout", .float timeout), ("cached", .bool false)]
  | .close => .dict [("ev", .str "close")]

end Event

end PublishPool
