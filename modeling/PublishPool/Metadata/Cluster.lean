import PublishPool.Value.Key
import PublishPool.Value.Access

/-!
A cluster as its metadata service describes it.

The service answers a metadata query with the cluster's brokers and topics, and a
watermark query for one partition with its low and high offsets. What it answers
is given here as raw values, before any checking: the service itself does not
check them, and the query code must cope with whatever comes.

The service keeps brokers keyed by id, topics by name and each topic's partitions
by id. Entries given twice under one key are one entry, in the place of the first
and with the content of the last (`Value.collapse`), so `Cluster.brokerList`,
`Cluster.topicList` and `Cluster.Topic.partitionList` are what a query sees.

`Cluster.ofDocument` reads a cluster from its document: a mapping with a list of
brokers, each `[id, host, port]`, a list of topics, each a mapping with a `name`,
an optional `error` and a list of `partitions`, and a `raise` flag that makes
metadata queries fail. A partition is a mapping with an `id`, and optionally a
`leader` (1 by default), `replicas` and `isrs` (`[1]` by default), an `error` and
`watermarks`: nothing, `"raise"` for a failing watermark query, or the answer.
Nothing (or any value that counts as false) is the empty cluster. The document is
read in order, brokers first, a topic's partitions before its name, and the first
part that cannot be reached or cannot be a key is the fault
(`Value.item`, `Value.member`, `Value.entries?`, `Value.iterate`).
-/

namespace PublishPool

/-- What a watermark query of one partition gives. -/
inductive Watermarks where
  /-- The query gives nothing. -/
  | absent
  /-- The query fails with a broker error. -/
  | failing
  /-- The query gives this value, normally a low and a high offset. -/
  | given (v : Value)
  deriving Inhabited

/-- A broker: its id, host and port, unchecked. -/
structure Cluster.Broker where
  id : Value
  host : Value
  port : Value
  deriving Inhabited

/-- A partition of a topic, unchecked. -/
structure Cluster.Partition where
  id : Value
  leader : Value := .int 1
  replicas : Value := .list [.int 1]
  isrs : Value := .list [.int 1]
  error : Value := .none
  watermarks : Watermarks := .absent
  deriving Inhabited

/-- A topic with its partitions, unchecked. -/
structure Cluster.Topic where
  name : Value
  error : Value := .none
  partitions : List Cluster.Partition := []
  deriving Inhabited

/-- A cluster: brokers, topics, and whether metadata queries fail. -/
structure Cluster where
  brokers : List Cluster.Broker := []
  topics : List Cluster.Topic := []
  failing : Bool := false
  deriving Inhabited

namespace Cluster

/-- The brokers as the service keeps them, keyed by id. -/
def brokerList (c : Cluster) : List Cluster.Broker := Value.collapse (·.id) c.brokers

/-- The topics as the service keeps them, keyed by name. -/
def topicList (c : Cluster) : List Cluster.Topic := Value.collapse (·.name) c.topics

/-- A topic's partitions as the service keeps them, keyed by id. -/
def Topic.partitionList (t : Cluster.Topic) : List Cluster.Partition :=
  Value.collapse (·.id) t.partitions

/-- The fault of a failing metadata query. -/
def queryFault : Fault := .raised .broker "fake list_topics failure"

/-- The fault of a failing watermark query. -/
def watermarkFault : Fault := .raised .broker "fake watermark failure"

/-- The fault of a key that cannot be a key. -/
def unhashable (k : Value) : Fault := .raised .typeMismatch ("unhashable type: '" ++ k.typeName ++ "'")

/-- A key checked to be one. -/
def checkKey (k : Value) : Except Fault Value :=
  if k.keyable then .ok k else .error (unhashable k)

/-- A broker from its entry `[id, host, port]`. -/
def Broker.ofDocument (b : Value) : Except Fault Cluster.Broker := do
  let id ← b.item 0
  let host ← b.item 1
  let port ← b.item 2
  let id ← checkKey id
  pure { id, host, port }

/-- A partition from its mapping. -/
def Partition.ofDocument (p : Value) : Except Fault Cluster.Partition := do
  let id ← p.member "id"
  let fields ← p.entries?
  let d : Cluster.Partition := { id }
  let watermarks : Watermarks := match Value.lookup fields "watermarks" with
    | Option.none | some .none => .absent
    | some (.str "raise") => .failing
    | some v => .given v
  let id ← checkKey id
  pure { id, leader := Value.lookupOr fields "leader" d.leader,
         replicas := Value.lookupOr fields "replicas" d.replicas,
         isrs := Value.lookupOr fields "isrs" d.isrs,
         error := Value.lookupOr fields "error" .none, watermarks }

/-- A topic from its mapping: its partitions first, then its name. -/
def Topic.ofDocument (t : Value) : Except Fault Cluster.Topic := do
  let fields ← t.entries?
  let parts ← Value.iterate (Value.lookupOr fields "partitions" (.list []))
  let partitions ← parts.mapM Partition.ofDocument
  let name ← t.member "name"
  let name ← checkKey name
  pure { name, error := Value.lookupOr fields "error" .none, partitions }

/-- A cluster from its document. -/
def ofDocument (c : Value) : Except Fault Cluster := do
  if !c.truthy then return {}
  let fields ← c.entries?
  let brokers ← (← Value.iterate (Value.lookupOr fields "brokers" (.list []))).mapM Broker.ofDocument
  let topics ← (← Value.iterate (Value.lookupOr fields "topics" (.list []))).mapM Topic.ofDocument
  pure { brokers, topics, failing := (Value.lookupOr fields "raise" .none).truthy }

end Cluster

end PublishPool
