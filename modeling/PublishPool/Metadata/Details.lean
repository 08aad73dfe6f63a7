import PublishPool.Metadata.Cluster
import PublishPool.Schema.Coerce
import PublishPool.Value.Compare

/-!
Checked cluster details.

A metadata report lists brokers (`BrokerDetails`) and topics (`TopicDetails`) with
their partitions (`PartitionDetails`). Ids, leaders, ports and replica lists are
integers, hosts and names texts, errors texts or nothing; each record is checked
when it is made, and every bad field of the record is reported in field order.

The watermarks and the message count are filled in after checking and are kept
as they came: a count is the sum of high minus low offsets over a topic's
partitions and may be negative.

A raw replica list is read as a sequence first (`Value.iterate`).
-/

namespace PublishPool

open PublishPool.Schema

/-- A broker of the report. -/
structure BrokerDetails where
  id : Int
  host : String
  port : Int
  deriving Inhabited

/-- A partition of the report. -/
structure PartitionDetails where
  id : Int
  leader : Int
  replicas : List Int
  isr : List Int
  error : Option String
  lowWatermark : Option Value := none
  highWatermark : Option Value := none
  deriving Inhabited

/-- A topic of the report. -/
structure TopicDetails where
  name : String
  error : Option String
  partitions : List PartitionDetails := []
  messageCount : Option Num := none
  deriving Inhabited

/-- A metadata report. -/
structure ClusterDetails where
  brokers : List BrokerDetails := []
  topics : List TopicDetails := []
  deriving Inhabited

/-- The first topic of a report whose name equals a value. -/
def ClusterDetails.topic? (d : ClusterDetails) (name : Value) : Option TopicDetails :=
  d.topics.find? fun t => Value.equals (.str t.name) name

namespace Value

/-- Items unpacked into exactly two, or the fault of unpacking them. -/
def unpackPair (items : List Value) : Except Fault (Value × Value) :=
  match items with
  | [a, b] => .ok (a, b)
  | _ =>
    if items.length < 2 then
      .error (.raised .badValue
        ("not enough values to unpack (expected 2, got " ++ toString items.length ++ ")"))
    else .error (.raised .badValue "too many values to unpack (expected 2)")

/-- The text of an error value; nothing stays nothing. -/
def errorText : Value → Option String
  | .none => Option.none
  | v => some v.display

end Value

/-- A broker as a mapping. -/
def BrokerDetails.dump (b : BrokerDetails) : Value :=
  .dict [("id", .int b.id), ("host", .str b.host), ("port", .int b.port)]

/-- An optional text as a value. -/
def optionalText (t : Option String) : Value := (t.map Value.str).getD .none

/-- A partition as a mapping. -/
def PartitionDetails.dump (p : PartitionDetails) : Value :=
  .dict [("id", .int p.id), ("leader", .int p.leader), ("replicas", .list (p.replicas.map .int)),
         ("isr", .list (p.isr.map .int)), ("error", optionalText p.error),
         ("low_watermark", p.lowWatermark.getD .none),
         ("high_watermark", p.highWatermark.getD .none)]

/-- A topic as a mapping. -/
def TopicDetails.dump (t : TopicDetails) : Value :=
  .dict [("name", .str t.name), ("error", optionalText t.error),
         ("partitions", .list (t.partitions.map PartitionDetails.dump)),
         ("message_count", (t.messageCount.map Num.toValue).getD .none)]

/-- A report as a mapping. -/
def ClusterDetails.dump (d : ClusterDetails) : Value :=
  .dict [("brokers", .list (d.brokers.map BrokerDetails.dump)),
         ("topics", .list (d.topics.map TopicDetails.dump))]

/-- A checked record, or the fault listing its issues. -/
def checkedRecord {α : Type} (c : Checked α) : Except Fault α :=
  match c with
  | .ok a => .ok a
  | .error issues => .error (.invalid issues)

/-- A list of integers under a field name. -/
def intList (name : String) (xs : List Value) : Checked (List Int) :=
  under name (items Schema.int xs)

/-- Checks a broker. -/
def BrokerDetails.check (b : Cluster.Broker) : Except Fault BrokerDetails :=
  let mk (id : Int) (host : String) (port : Int) : BrokerDetails := { id, host, port }
  checkedRecord (Checked.ap (Checked.ap ((atField "id" (Schema.int b.id)).map mk)
    (atField "host" (Schema.text b.host))) (atField "port" (Schema.int b.port)))

/-- Checks a partition; its replica lists are read as sequences first. -/
def PartitionDetails.check (p : Cluster.Partition) : Except Fault PartitionDetails := do
  let replicas ← Value.iterate p.replicas
  let isrs ← Value.iterate p.isrs
  let mk (id leader : Int) (replicas isr : List Int) : PartitionDetails :=
    { id, leader, replicas, isr, error := Value.errorText p.error }
  checkedRecord (Checked.ap (Checked.ap (Checked.ap
    ((atField "id" (Schema.int p.id)).map mk)
    (atField "leader" (Schema.int p.leader)))
    (intList "replicas" replicas)) (intList "isr" isrs))

/-- Checks a topic without its partitions. -/
def TopicDetails.check (t : Cluster.Topic) : Except Fault TopicDetails :=
  checkedRecord ((atField "name" (Schema.text t.name)).map fun name =>
    { name, error := Value.errorText t.error })

end PublishPool
