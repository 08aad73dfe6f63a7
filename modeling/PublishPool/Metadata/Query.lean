import PublishPool.Metadata.Details
import PublishPool.Client.Settings
import PublishPool.World

/-!
Metadata queries.

`Metadata.query` asks the cluster for its metadata, for one topic or for all,
within the metadata timeout, and builds the report: the brokers in the order the
service keeps them, then each topic with its partitions. Every record is checked
as it is made, and the first record with a bad field ends the query.

With offsets asked for, each partition's watermarks are queried too, within the
watermark timeout, once the topic and partition are checked as the client's
topic-partition takes them. A failing query is warned about and, like a query that gives
nothing, counts as the offsets `(-1, -1)`. The topic's message count is the sum of
high minus low over its partitions, starting from zero; offsets that cannot be
subtracted end the query. Without offsets, watermarks and counts stay unset.
-/

namespace PublishPool

namespace Metadata

open Act

/-- The offsets reported when a partition's watermarks are unknown. -/
def unknownOffsets : Value × Value := (.int (-1), .int (-1))

/-- The fault of an integer beyond a machine integer. -/
def overflow (text : String) : Fault := .raised .overflow text

/-- A topic name as the client's topic-partition takes it: text without a zero
character. -/
def topicArgument (name : String) : Except Fault String :=
  if name.toList.contains (Char.ofNat 0) then .error (.raised .badValue "embedded null character")
  else .ok name

/-- A partition number as the client's topic-partition takes it: an integer, a
flag counting as 0 or 1, that fits 32 bits; beyond 64 bits and beyond 32 bits are
different overflows, and any other value is refused. -/
def partitionArgument (id : Value) : Except Fault Int :=
  match id with
  | .bool b => .ok (if b then 1 else 0)
  | .int n =>
    if n < -Int.pow 2 63 ∨ Int.pow 2 63 ≤ n then .error (overflow "Python int too large to convert to C long")
    else if Int.pow 2 31 ≤ n then .error (overflow "signed integer is greater than maximum")
    else if n < -Int.pow 2 31 then .error (overflow "signed integer is less than minimum")
    else .ok n
  | v => .error (.raised .typeMismatch ("'" ++ v.typeName ++ "' object cannot be interpreted as an integer"))

/-- Queries a partition's watermarks: the low and high offsets the service gives,
or the unknown offsets when the query fails (warned) or gives nothing. The topic
and partition are first made the client's topic-partition, and the query names its
partition number (a flag as 0 or 1), while the warning names the partition as it was
given; the service's answer is read as a sequence that must hold exactly two
offsets. -/
def fetchWatermarks (topic : String) (partition : Value) (timeout : Float) (w : Watermarks) :
    Act (Value × Value) := do
  let _ ← ofResult (topicArgument topic)
  let number ← ofResult (partitionArgument partition)
  record (.watermarks topic (.int number) timeout)
  match w with
  | .given v => ofResult (Value.iterate v >>= Value.unpackPair)
  | .absent => pure unknownOffsets
  | .failing =>
    logWarning ("topic=" ++ topic ++ " - partition=" ++ partition.display ++
      " failed to fetch watermarks: " ++ Cluster.watermarkFault.message)
    pure unknownOffsets

/-- The partitions of a topic, checked, with their watermarks when asked for; also
the running message count, starting from `count`. -/
def partitionReports (s : Settings) (topic : String) (fetchOffsets : Bool) :
    Num → List Cluster.Partition → Act (List PartitionDetails × Num)
  | count, [] => pure ([], count)
  | count, p :: rest => do
    let details ← ofResult (PartitionDetails.check p)
    if fetchOffsets then
      let (low, high) ← fetchWatermarks topic p.id s.watermarkTimeoutSec p.watermarks
      let difference ← ofResult (Num.subValues high low)
      let count ← ofResult (Num.add count difference)
      let (others, total) ← partitionReports s topic fetchOffsets count rest
      pure ({ details with lowWatermark := some low, highWatermark := some high } :: others, total)
    else
      let (others, total) ← partitionReports s topic fetchOffsets count rest
      pure (details :: others, total)

/-- A topic, checked, with its partitions and, when offsets are asked for, its
message count. -/
def topicReport (s : Settings) (fetchOffsets : Bool) (t : Cluster.Topic) : Act TopicDetails := do
  let details ← ofResult (TopicDetails.check t)
  let (partitions, count) ← partitionReports s details.name fetchOffsets (.int 0) t.partitionList
  pure { details with partitions, messageCount := if fetchOffsets then some count else none }

/-- The topics of the cluster, in order. -/
def topicReports (s : Settings) (fetchOffsets : Bool) : List Cluster.Topic → Act (List TopicDetails)
  | [] => pure []
  | t :: rest => do
    let first ← topicReport s fetchOffsets t
    let others ← topicReports s fetchOffsets rest
    pure (first :: others)

/-- The metadata report of a cluster. -/
def query (s : Settings) (cluster : Cluster) (fetchOffsets : Bool) (topic : Value) :
    Act ClusterDetails := do
  record (.listTopics topic s.metadataTimeoutSec)
  if cluster.failing then fail Cluster.queryFault
  let brokers ← ofResult (cluster.brokerList.mapM BrokerDetails.check)
  let topics ← topicReports s fetchOffsets cluster.topicList
  pure { brokers, topics }

/-- The report through a client of the pool's own: nothing when the pool is off;
offsets counted as the settings say unless asked otherwise; the client is closed
however the query ends. -/
def ofPool (s : Settings) (cluster : Cluster) (fetchOffsets : Option Bool) (topic : Value) :
    Act (Option ClusterDetails) := do
  if !s.enabled then return none
  let fetch := fetchOffsets.getD s.metadataCountMsgOffsets
  let cfg ← ofResult s.consumerSettings
  record (.consumerCreated cfg)
  let outcome ← attempt (query s cluster fetch topic)
  record .close
  some <$> ofResult outcome

end Metadata

end PublishPool
