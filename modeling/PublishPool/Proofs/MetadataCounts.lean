import PublishPool.Metadata.Query
import Mathlib.Data.List.Forall2

/-!
Metadata reports count messages per topic.

A metadata query reports the cluster's brokers and topics in the order the service
keeps them, each topic with its partitions in order. With offsets asked for, it
queries each partition's watermarks once, in order, naming the topic, the partition
and the watermark timeout; it records the low and high offsets the query gives, or
(-1, -1) when the query gives nothing or fails, and counts each topic's messages as
the sum of high minus low over that topic's partitions alone, so a failed query adds
nothing. Without offsets, no watermark is queried and no offset or count is set.

The statement is about metadata as the client's types give it (`Cluster.Typed`):
integer ids, leaders, ports and replica lists, text hosts and names, partition ids of
32 bits, topic names without a zero character, and watermark answers of two integers.

Main statement: `metadata_counts_per_topic`.
-/

namespace PublishPool

open Act

/-! ### Metadata as the client types it -/

/-- The offsets a watermark query reports: the two it gives, or (-1, -1) when it
gives nothing or fails; `none` for an answer that is not two integers. -/
def Watermarks.offsets? : Watermarks → Option (Int × Int)
  | .absent | .failing => some (-1, -1)
  | .given (.list [.int lo, .int hi]) => some (lo, hi)
  | .given _ => none

namespace Cluster

/-- A broker as the client's metadata types it. -/
structure Broker.Typed (b : Cluster.Broker) : Prop where
  id : ∃ n : Int, b.id = .int n
  host : ∃ h : String, b.host = .str h
  port : ∃ n : Int, b.port = .int n

/-- A partition as the client's metadata types it: a 32-bit id, an integer leader,
replica lists of integers, and a watermark query that gives two integers, gives
nothing, or fails with a broker error. -/
structure Partition.Typed (p : Cluster.Partition) : Prop where
  id : ∃ n : Int, p.id = .int n ∧ -2147483648 ≤ n ∧ n < 2147483648
  leader : ∃ n : Int, p.leader = .int n
  replicas : ∃ ns : List Int, p.replicas = .list (ns.map .int)
  isrs : ∃ ns : List Int, p.isrs = .list (ns.map .int)
  offsets : ∃ lo hi : Int, p.watermarks.offsets? = some (lo, hi)

/-- A topic as the client's metadata types it: a text name without a zero
character, and typed partitions. -/
structure Topic.Typed (t : Cluster.Topic) : Prop where
  name : ∃ n : String, t.name = .str n ∧ Char.ofNat 0 ∉ n.toList
  partitions : ∀ p ∈ t.partitionList, p.Typed

/-- Cluster metadata as the client's types give it, from a metadata query that
answers. -/
structure Typed (c : Cluster) : Prop where
  answers : c.failing = false
  brokers : ∀ b ∈ c.brokerList, b.Typed
  topics : ∀ t ∈ c.topicList, t.Typed

/-- The messages a partition holds by its reported offsets: high minus low. -/
def Partition.held (p : Cluster.Partition) : Int :=
  match p.watermarks.offsets? with
  | some (lo, hi) => hi - lo
  | none => 0

/-- The messages a topic holds: the sum over its partitions. -/
def Topic.held (t : Cluster.Topic) : Int :=
  (t.partitionList.map Partition.held).foldr (· + ·) 0

end Cluster

/-! ### What a report says -/

/-- A broker reported as the metadata gives it. -/
structure BrokerReported (b : Cluster.Broker) (d : BrokerDetails) : Prop where
  id : b.id = .int d.id
  host : b.host = .str d.host
  port : b.port = .int d.port

/-- A partition reported as the metadata gives it: its id, and with offsets counted
the offsets its watermark query reports, else none. -/
structure PartitionReported (fetch : Bool) (p : Cluster.Partition) (d : PartitionDetails) :
    Prop where
  id : p.id = .int d.id
  offsets : if fetch then ∃ lo hi, p.watermarks.offsets? = some (lo, hi) ∧
      d.lowWatermark = some (.int lo) ∧ d.highWatermark = some (.int hi)
    else d.lowWatermark = none ∧ d.highWatermark = none

/-- A topic reported as the metadata gives it: its name, its partitions in order,
and with offsets counted the messages its partitions hold, else no count. -/
structure TopicReported (fetch : Bool) (t : Cluster.Topic) (d : TopicDetails) : Prop where
  name : t.name = .str d.name
  partitions : List.Forall₂ (PartitionReported fetch) t.partitionList d.partitions
  count : d.messageCount = if fetch then some (.int t.held) else none

/-- The watermark queries of a reported topic: one per partition, in order. -/
def TopicDetails.watermarkCalls (timeout : Float) (d : TopicDetails) : List Event :=
  d.partitions.map fun p => .watermarks d.name (.int p.id) timeout

/-! ### Checking typed records -/

namespace Cluster

variable {b : Cluster.Broker} {p : Cluster.Partition} {t : Cluster.Topic}

/-- A list of integers passes as integers. -/
theorem items_int (ns : List Int) (i : Nat) :
    Schema.items.go Schema.int i (ns.map .int) = .ok ns := by
  induction ns generalizing i with
  | nil => rfl
  | cons n rest ih =>
    simp [Schema.items.go, ih, Schema.int, Schema.Checked.ap, Functor.map, Except.map]

theorem Broker.Typed.check (typed : b.Typed) :
    ∃ d, BrokerDetails.check b = .ok d ∧ BrokerReported b d := by
  obtain ⟨⟨n, id⟩, ⟨h, host⟩, ⟨port, portIs⟩⟩ := typed
  refine ⟨⟨n, h, port⟩, ?_, ⟨id, host, portIs⟩⟩
  simp [BrokerDetails.check, id, host, portIs, Schema.int, Schema.text, Schema.atField,
    Schema.Checked.ap, checkedRecord, Except.map]

theorem Partition.Typed.check (typed : p.Typed) :
    ∃ d, PartitionDetails.check p = .ok d ∧ p.id = .int d.id ∧
      d.lowWatermark = none ∧ d.highWatermark = none := by
  obtain ⟨⟨n, id, -⟩, ⟨l, leader⟩, ⟨rs, replicas⟩, ⟨isr, isrs⟩, -⟩ := typed
  refine ⟨{ id := n, leader := l, replicas := rs, isr, error := Value.errorText p.error }, ?_,
    id, rfl, rfl⟩
  simp [PartitionDetails.check, id, leader, replicas, isrs, Value.iterate, intList, Schema.items,
    items_int, Schema.int, Schema.atField, Schema.under, Schema.Checked.ap, checkedRecord,
    Except.map, bind, Except.bind]

theorem Topic.Typed.check {n : String} (named : t.name = .str n) :
    TopicDetails.check t = .ok { name := n, error := Value.errorText t.error } := by
  simp [TopicDetails.check, named, Schema.text, Schema.atField, checkedRecord, Except.map]

end Cluster

/-- A watermark answer that reports two offsets gives them as a list of two
integers. -/
theorem Watermarks.given_of_offsets? {v : Value} {lo hi : Int}
    (reported : (Watermarks.given v).offsets? = some (lo, hi)) : v = .list [.int lo, .int hi] := by
  unfold Watermarks.offsets? at reported
  split at reported <;> rename_i shape
  · cases shape
  · cases shape
  · cases shape
    cases reported
    rfl
  · cases reported

/-- Integer offsets subtract and add as integers. -/
@[simp] theorem Num.subValues_int (a b : Int) :
    Num.subValues (.int a) (.int b) = .ok (.int (a - b)) := rfl

@[simp] theorem Num.add_int (a b : Int) : Num.add (.int a) (.int b) = .ok (.int (a + b)) := rfl

/-! ### One query at a time -/

namespace Metadata

variable {p : Cluster.Partition} {name : String}

/-- A topic name without a zero character is taken as it is. -/
theorem topicArgument_clean (clean : Char.ofNat 0 ∉ name.toList) :
    topicArgument name = .ok name := by
  simp [topicArgument, clean]

/-- A partition number of 32 bits is taken as it is. -/
theorem partitionArgument_int {n : Int} (low : -2147483648 ≤ n) (high : n < 2147483648) :
    partitionArgument (.int n) = .ok n := by
  have wide : Int.pow 2 63 = 9223372036854775808 := by decide
  have narrow : Int.pow 2 31 = 2147483648 := by decide
  simp only [partitionArgument, wide, narrow]
  split
  · omega
  · split
    · omega
    · split
      · omega
      · rfl

/-- A typed partition's watermark query is made once, naming the topic, the
partition and the timeout, and answers the offsets it reports. -/
theorem exec_fetchWatermarks (clean : Char.ofNat 0 ∉ name.toList) (typed : p.Typed)
    {lo hi : Int} (offsets : p.watermarks.offsets? = some (lo, hi)) (timeout : Float) (w : World) :
    ∃ w', exec (fetchWatermarks name p.id timeout p.watermarks) w = (.ok (.int lo, .int hi), w') ∧
      w'.trace = w.trace ++ [.watermarks name p.id timeout] := by
  obtain ⟨n, id, low, high⟩ := typed.id
  rw [id]
  unfold fetchWatermarks
  simp only [exec_bind, exec_ofResult, topicArgument_clean clean, partitionArgument_int low high,
    exec_record]
  -- a query that gives nothing or fails reports (-1, -1); a given answer is its two offsets
  cases answer : p.watermarks with
  | absent =>
    rw [answer] at offsets
    cases offsets
    exact ⟨_, rfl, rfl⟩
  | failing =>
    rw [answer] at offsets
    cases offsets
    exact ⟨_, rfl, rfl⟩
  | given v =>
    rw [answer] at offsets
    rw [Watermarks.given_of_offsets? offsets]
    exact ⟨_, rfl, rfl⟩

/-- The partitions of a topic, all typed, are reported in order; with offsets
counted, each partition's watermarks are queried once, in order, and the running
count grows by the messages every partition holds. -/
theorem exec_partitionReports (s : Settings) (clean : Char.ofNat 0 ∉ name.toList) (fetch : Bool)
    (ps : List Cluster.Partition) (typed : ∀ p ∈ ps, p.Typed) (count : Int) (w : World) :
    ∃ ds w', exec (partitionReports s name fetch (.int count) ps) w =
        (.ok (ds, .int (if fetch then count + (ps.map Cluster.Partition.held).foldr (· + ·) 0
          else count)), w') ∧
      List.Forall₂ (PartitionReported fetch) ps ds ∧
      w'.trace = w.trace ++ if fetch then
        ds.map (fun d => .watermarks name (.int d.id) s.watermarkTimeoutSec) else [] := by
  induction ps generalizing count w with
  | nil => exact ⟨[], w, by cases fetch <;> simp [partitionReports], .nil, by cases fetch <;> simp⟩
  | cons p rest ih =>
    have first : p.Typed := typed p List.mem_cons_self
    obtain ⟨d, check, id, low, high⟩ := first.check
    have others : ∀ q ∈ rest, q.Typed := fun q mem => typed q (List.mem_cons_of_mem p mem)
    cases fetch with
    | false =>
      obtain ⟨ds, w', run, reported, trace⟩ := ih others count w
      simp only [Bool.false_eq_true, ↓reduceIte] at run trace
      refine ⟨d :: ds, w', ?_, .cons ⟨id, low, high⟩ reported, by simpa using trace⟩
      simp [partitionReports, exec_bind, exec_map, check, run]
    | true =>
      obtain ⟨lo, hi, offsets⟩ := first.offsets
      obtain ⟨w₁, fetched, trace₁⟩ :=
        exec_fetchWatermarks clean first offsets s.watermarkTimeoutSec w
      obtain ⟨ds, w', run, reported, trace⟩ := ih others (count + (hi - lo)) w₁
      simp only [↓reduceIte] at run trace
      refine ⟨{ d with lowWatermark := some (.int lo), highWatermark := some (.int hi) } :: ds, w',
        ?_, .cons ⟨id, lo, hi, offsets, rfl, rfl⟩ reported, ?_⟩
      · have held : p.held = hi - lo := by simp [Cluster.Partition.held, offsets]
        simp [partitionReports, exec_bind, exec_map, check, fetched, run, held, Int.add_assoc]
      · simp [trace, trace₁, id]

/-- A typed topic is reported with its name, its partitions in order and, with
offsets counted, the messages its partitions hold, counted from zero; its
partitions' watermarks are queried in order. -/
theorem exec_topicReport (s : Settings) (fetch : Bool) {t : Cluster.Topic} (typed : t.Typed)
    (w : World) :
    ∃ d w', exec (topicReport s fetch t) w = (.ok d, w') ∧ TopicReported fetch t d ∧
      w'.trace = w.trace ++ if fetch then d.watermarkCalls s.watermarkTimeoutSec else [] := by
  obtain ⟨⟨n, named, clean⟩, partitions⟩ := typed
  obtain ⟨ds, w', run, reported, trace⟩ :=
    exec_partitionReports s clean fetch t.partitionList partitions 0 w
  refine ⟨{ name := n, error := Value.errorText t.error, partitions := ds,
            messageCount := if fetch then some (.int t.held) else none },
    w', ?_, ⟨named, reported, rfl⟩, ?_⟩
  · cases fetch <;> simp only [Bool.false_eq_true, ↓reduceIte, Int.zero_add] at run <;>
      simp [topicReport, exec_bind, exec_map, Cluster.Topic.Typed.check named, run,
        Cluster.Topic.held]
  · cases fetch <;> simp [trace, TopicDetails.watermarkCalls]

/-- Typed topics are reported in order, each counted on its own. -/
theorem exec_topicReports (s : Settings) (fetch : Bool) (ts : List Cluster.Topic)
    (typed : ∀ t ∈ ts, t.Typed) (w : World) :
    ∃ ds w', exec (topicReports s fetch ts) w = (.ok ds, w') ∧
      List.Forall₂ (TopicReported fetch) ts ds ∧
      w'.trace = w.trace ++ if fetch then ds.flatMap (·.watermarkCalls s.watermarkTimeoutSec)
        else [] := by
  induction ts generalizing w with
  | nil => exact ⟨[], w, rfl, .nil, by cases fetch <;> simp⟩
  | cons t rest ih =>
    obtain ⟨d, w₁, first, reportedFirst, trace₁⟩ :=
      exec_topicReport s fetch (typed t List.mem_cons_self) w
    obtain ⟨ds, w', others, reported, trace⟩ :=
      ih (fun u mem => typed u (List.mem_cons_of_mem t mem)) w₁
    refine ⟨d :: ds, w', ?_, .cons reportedFirst reported, ?_⟩
    · simp [topicReports, exec_bind, exec_map, first, others]
    · cases fetch <;> simp [trace, trace₁]

/-- Typed brokers are all reported, in order. -/
theorem brokers_check (bs : List Cluster.Broker) (typed : ∀ b ∈ bs, b.Typed) :
    ∃ ds, bs.mapM BrokerDetails.check = .ok ds ∧ List.Forall₂ BrokerReported bs ds := by
  induction bs with
  | nil => exact ⟨[], rfl, .nil⟩
  | cons b rest ih =>
    obtain ⟨d, check, reported⟩ := (typed b List.mem_cons_self).check
    obtain ⟨ds, checks, others⟩ := ih fun c mem => typed c (List.mem_cons_of_mem b mem)
    exact ⟨d :: ds, by rw [List.mapM_cons, check, checks]; rfl, .cons reported others⟩

end Metadata

/-- A metadata query of typed metadata reports the brokers and the topics in the
order the service keeps them, each topic with its partitions in order. With offsets
counted it queries each partition's watermarks exactly once, in order, naming the
topic, the partition and the watermark timeout, and nothing else; it records the
offsets each query reports, (-1, -1) for one that gives nothing or fails, and counts
each topic's messages over that topic's partitions alone (`TopicReported`). Without
offsets it queries no watermark and leaves every offset and count unset. -/
theorem metadata_counts_per_topic (s : Settings) {c : Cluster} (typed : c.Typed) (fetch : Bool)
    (topic : Value) (w : World) :
    ∃ d w', exec (Metadata.query s c fetch topic) w = (.ok d, w') ∧
      List.Forall₂ BrokerReported c.brokerList d.brokers ∧
      List.Forall₂ (TopicReported fetch) c.topicList d.topics ∧
      w'.trace = w.trace ++ .listTopics topic s.metadataTimeoutSec ::
        if fetch then d.topics.flatMap (·.watermarkCalls s.watermarkTimeoutSec) else [] := by
  obtain ⟨bs, checks, brokersReported⟩ := Metadata.brokers_check c.brokerList typed.brokers
  obtain ⟨ds, w', run, topicsReported, trace⟩ :=
    Metadata.exec_topicReports s fetch c.topicList typed.topics
      { w with trace := w.trace ++ [.listTopics topic s.metadataTimeoutSec] }
  refine ⟨{ brokers := bs, topics := ds }, w', ?_, brokersReported, topicsReported, ?_⟩
  · simp [Metadata.query, exec_bind, exec_map, typed.answers, checks, run]
  · simp [trace]

/-- Metadata of one broker and one topic whose first partition holds five messages
and whose second fails its watermark query. -/
def ordersCluster : Cluster :=
  { brokers := [⟨.int 1, .str "kafka", .int 9092⟩],
    topics := [{ name := .str "orders",
                 partitions := [{ id := .int 0, watermarks := .given (.list [.int 2, .int 7]) },
                                { id := .int 1, watermarks := .failing }] }] }

theorem ordersCluster_typed : ordersCluster.Typed where
  answers := rfl
  brokers b mem := by
    rw [show ordersCluster.brokerList = ordersCluster.brokers from rfl, ordersCluster,
      List.mem_singleton] at mem
    subst mem
    exact ⟨⟨1, rfl⟩, ⟨"kafka", rfl⟩, ⟨9092, rfl⟩⟩
  topics t mem := by
    rw [show ordersCluster.topicList = ordersCluster.topics from rfl, ordersCluster,
      List.mem_singleton] at mem
    subst mem
    refine ⟨⟨"orders", rfl, by decide⟩, fun p held => ?_⟩
    change p ∈ [_, _] at held
    rw [List.mem_pair] at held
    rcases held with rfl | rfl
    · exact ⟨⟨0, rfl, by decide, by decide⟩, ⟨1, rfl⟩, ⟨[1], rfl⟩, ⟨[1], rfl⟩, ⟨2, 7, rfl⟩⟩
    · exact ⟨⟨1, rfl, by decide, by decide⟩, ⟨1, rfl⟩, ⟨[1], rfl⟩, ⟨[1], rfl⟩, ⟨-1, -1, rfl⟩⟩

/-- The orders topic is counted at five messages: its failing partition adds
nothing. -/
theorem orders_counted :
    ordersCluster.Typed ∧ ordersCluster.topicList.map Cluster.Topic.held = [5] ∧
      ∃ d w', exec (Metadata.query {} ordersCluster true .none) default = (.ok d, w') ∧
        List.Forall₂ BrokerReported ordersCluster.brokerList d.brokers ∧
        List.Forall₂ (TopicReported true) ordersCluster.topicList d.topics ∧
        w'.trace = (default : World).trace ++
          .listTopics .none ({} : Settings).metadataTimeoutSec ::
          d.topics.flatMap (·.watermarkCalls ({} : Settings).watermarkTimeoutSec) :=
  ⟨ordersCluster_typed, by decide,
    metadata_counts_per_topic {} ordersCluster_typed true .none default⟩

end PublishPool
