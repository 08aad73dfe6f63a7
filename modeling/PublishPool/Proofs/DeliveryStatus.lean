import PublishPool.Proofs.WireForm

/-!
The status of one publish is exact.

A publish writes the payload for the wire and encodes the key, produces the message
and flushes the producer. The flush fires the delivery reports of the messages in
flight, and the publish reads its own message's report: a report says the message was
delivered, or that it failed with an error code, and a lost message fires none
(`Delivery.report?`). The report records a status: zero for a delivery, the error code
for a failure, or -1 for a code that counts as false (`Report.status`). A message in
flight may also make the flush raise, and then no report fires.

`Publish.Course` lays the rules out case by case: a message without a wire form
answers -1; an error raised by `produce`, or by the flush, answers -1 when it is one the
publish catches and is passed on otherwise; a flushed message answers the status of
its own report, -1 when none fired, and a purge follows the flush exactly when the
flush leaves messages undelivered, whether or not the purge fails.

Main statement: `publish_status_exact`. The status is zero exactly when the message
was written and produced, the flush raised nothing and the message's own report says it
was delivered, so no failed or unconfirmed delivery reads as a success.
-/

namespace PublishPool

open Act

/-! ### Delivery reports -/

/-- What a delivery report tells about its message. -/
inductive Report where
  | delivered
  | failed (code : Value)

/-- The report a message fires at a flush that does not raise, if it fires one. -/
def Delivery.report? : Delivery → Option Report
  | .ok | .okHoldLock | .okRemaining => some .delivered
  | .fail code => some (.failed code)
  | .lost | .lostPurgeError | .flushFails _ => none

/-- The status a report records: zero for a delivery, the error code for a
failure, or -1 when the code counts as false. -/
def Report.status : Report → Value
  | .delivered => .int 0
  | .failed code => if code.truthy then code else deliveryFailed

/-- The status a message's report records, or -1 when it fires none. -/
def Delivery.reportStatus (d : Delivery) : Value :=
  (d.report?.map Report.status).getD deliveryFailed

/-- A report records the status the producer hands back for it. -/
theorem Delivery.status?_eq_report? (d : Delivery) : d.status? = d.report?.map Report.status := by
  cases d <;> rfl

/-- Only a delivery records zero: a failure records its code, which then counts as
true, or -1. -/
theorem Report.status_eq_zero_iff (r : Report) : r.status = .int 0 ↔ r = .delivered := by
  cases r with
  | delivered => simp [Report.status]
  | failed code =>
    simp only [Report.status, reduceCtorEq, iff_false]
    split
    · rename_i truthy
      intro zero
      rw [zero] at truthy
      exact absurd truthy (by decide)
    · simp [deliveryFailed]

/-- A message's status is zero exactly when its report says delivered. -/
theorem Delivery.reportStatus_eq_zero_iff (d : Delivery) :
    d.reportStatus = .int 0 ↔ d.report? = some .delivered := by
  unfold reportStatus
  cases d.report? with
  | none => simp [deliveryFailed]
  | some r => simp [Report.status_eq_zero_iff]

/-! ### One publish, course by course -/

/-- The error the flush of some messages in flight raises, if any: the first one a
message makes it raise. -/
def flushFault? (inFlight : List Delivery) : Option Fault := inFlight.findSome? Delivery.flushFault?

namespace Producer

variable {p p' : Producer}

/-- Taking a script step leaves the messages in flight and undelivered alone. -/
theorem next_keeps {step : Producer.Step} (next : p.next = (step, p')) :
    p'.inFlight = p.inFlight ∧ p'.backlog = p.backlog := by
  obtain ⟨step', taken, -⟩ := next_spec p
  rw [taken, Prod.mk.injEq] at next
  rw [← next.2]
  exact ⟨rfl, rfl⟩

end Producer

/-- A flush that raises is passed on at once: nothing is recorded. -/
theorem exec_flushAndPurge_raises (timeout : Value) (s : World) {f : Fault}
    (raised : flushFault? s.producer.inFlight = some f) :
    ∃ s', exec (flushAndPurge timeout) s = (.error f, s') ∧ s'.trace = s.trace ∧
      s'.log = s.log := by
  have flushed : s.producer.flush.1 = .error f := by
    simp only [Producer.flush]
    rw [show s.producer.inFlight.findSome? Delivery.flushFault? = some f from raised]
  unfold flushAndPurge
  simp only [exec_bind, exec_get, exec_modify]
  rw [show s.producer.flush = (.error f, s.producer.flush.2) from Prod.ext flushed rfl]
  exact ⟨_, rfl, rfl, rfl⟩

/-- A flush that does not raise is recorded with the number of messages it leaves
undelivered, and a purge follows exactly when there are any; a purge that fails is
only logged. Nothing stays in flight. -/
theorem exec_flushAndPurge_purges (timeout : Value) (s : World)
    (settled : flushFault? s.producer.inFlight = none) :
    ∃ n s', exec (flushAndPurge timeout) s = (.ok (), s') ∧
      s'.trace = s.trace ++ .flush timeout n :: (if 0 < n then [.purge true false] else []) ∧
      s'.producer.inFlight = [] := by
  obtain ⟨n, flushed⟩ : ∃ n, s.producer.flush.1 = .ok n := by
    simp only [Producer.flush]
    rw [show s.producer.inFlight.findSome? Delivery.flushFault? = none from settled]
    exact ⟨_, rfl⟩
  unfold flushAndPurge
  simp only [exec_bind, exec_get, exec_modify]
  rw [show s.producer.flush = (.ok n, s.producer.flush.2) from Prod.ext flushed rfl]
  simp only [exec_ofResult, exec_record]
  split
  · rename_i undelivered
    simp only [exec_bind, exec_get, exec_record, exec_logError]
    -- the purge follows whether it succeeds or fails
    split
    · rename_i p purged
      refine ⟨n, _, rfl, by simp [undelivered], ?_⟩
      rw [Producer.purge_inFlight purged, Producer.flush_inFlight]
    · exact ⟨n, _, rfl, by simp [undelivered], Producer.flush_inFlight _⟩
  · rename_i delivered
    exact ⟨n, _, rfl, by simp [delivered], Producer.flush_inFlight _⟩

section Courses

variable {m : Message} {bytes : List UInt8} {key : Option (List UInt8)} {s : World}
  {p : Producer}

/-- The produce event of a message with its wire form and headers. -/
abbrev produceEvent (m : Message) (bytes : List UInt8) (key : Option (List UInt8))
    (headers : List (List Value)) : Event :=
  .produce m.topic bytes key (if headers.isEmpty then none else some headers)

/-- A publish whose `produce` raises answers -1 for an error it catches and passes
any other error on; the produced message is on the trace. -/
theorem exec_publishOne_refused (wire : m.wireForm = .ok (bytes, key))
    {f : ProduceFailure} (next : s.producer.next = (.failWith f, p)) (headers : List (List Value))
    (timeout : Value) :
    ∃ s', exec (publishOne m headers timeout) s =
        (if f.expected then .ok deliveryFailed else .error f.fault, s') ∧
      s'.trace = s.trace ++ [produceEvent m bytes key headers] := by
  unfold publishOne
  simp only [wire, exec_bind, exec_record, exec_get, exec_modify]
  unfold Producer.produce
  rw [next]
  dsimp only
  cases f.expected
  · exact ⟨_, rfl, rfl⟩
  · simp only [↓reduceIte, exec_produceFailed]
    exact ⟨_, rfl, rfl⟩

/-- A publish that produces its message waits for its report, from a world where the
message is in flight after the others and is on the trace. -/
theorem exec_publishOne_produces (wire : m.wireForm = .ok (bytes, key))
    {d : Delivery} (next : s.producer.next = (.deliver d, p)) (headers : List (List Value))
    (timeout : Value) :
    ∃ w, exec (publishOne m headers timeout) s = exec (awaitReport m d timeout) w ∧
      w.producer.inFlight = s.producer.inFlight ++ [d] ∧
      w.trace = s.trace ++ [produceEvent m bytes key headers] := by
  obtain ⟨kept, -⟩ := Producer.next_keeps next
  unfold publishOne
  simp only [wire, exec_bind, exec_record, exec_get, exec_modify]
  unfold Producer.produce
  rw [next]
  dsimp only
  -- another party may take the queue lock meanwhile; the wait follows all the same
  cases d.holdsLock
  · simp only [Bool.false_eq_true, ↓reduceIte]
    exact ⟨_, rfl, by simp [kept], rfl⟩
  · simp only [↓reduceIte, exec_bind, exec_modify]
    exact ⟨_, rfl, by simp [kept], rfl⟩

/-- A wait whose flush raises answers -1 for an error the publish catches, and passes
any other error on; nothing more is recorded. -/
theorem exec_awaitReport_raises (d : Delivery) (timeout : Value) {g : Fault}
    (raised : flushFault? s.producer.inFlight = some g) :
    ∃ s', exec (awaitReport m d timeout) s =
        (if g.caughtOnPublish then .ok deliveryFailed else .error g, s') ∧ s'.trace = s.trace := by
  obtain ⟨s₁, flushed, traced, -⟩ := exec_flushAndPurge_raises timeout s raised
  unfold awaitReport
  simp only [exec_bind, exec_attempt, flushed]
  cases g.caughtOnPublish
  · exact ⟨_, rfl, traced⟩
  · simp only [↓reduceIte, exec_produceFailed]
    exact ⟨_, rfl, traced⟩

/-- A wait whose flush does not raise answers the status of the message's own report. -/
theorem exec_awaitReport_reports (d : Delivery) (timeout : Value)
    (settled : flushFault? s.producer.inFlight = none) :
    ∃ n s', exec (awaitReport m d timeout) s = (.ok d.reportStatus, s') ∧
      s'.trace = s.trace ++ .flush timeout n :: (if 0 < n then [.purge true false] else []) := by
  obtain ⟨n, s₁, flushed, traced, -⟩ := exec_flushAndPurge_purges timeout s settled
  unfold awaitReport
  simp only [exec_bind, exec_attempt, flushed]
  refine ⟨n, s₁, ?_, traced⟩
  rw [Delivery.reportStatus, ← Delivery.status?_eq_report?]
  rfl

namespace Publish

variable {timeout : Value}

/-- How a publish of `m` from the world `s` goes by the rules of the delivery status:
what it answers, and the events it adds to the trace. -/
inductive Course (m : Message) (timeout : Value) (s : World) : Except Fault Value → World → Prop
  /-- A message without a wire form is answered with -1, and nothing is produced. -/
  | unwritable {f : Fault} {s' : World} :
      m.wireForm = .error f → s'.trace = s.trace →
      Course m timeout s (.ok deliveryFailed) s'
  /-- An error raised by `produce` is answered with -1 when the publish catches it, and
  passed on otherwise. -/
  | refused {bytes : List UInt8} {key : Option (List UInt8)} {f : ProduceFailure} {s' : World} :
      m.wireForm = .ok (bytes, key) → s.producer.next.1 = .failWith f →
      (∃ hs, s'.trace = s.trace ++ [.produce m.topic bytes key hs]) →
      Course m timeout s (if f.expected then .ok deliveryFailed else .error f.fault) s'
  /-- An error raised by the flush is answered with -1 when the publish catches it, and
  passed on otherwise; no report fires and no purge follows. -/
  | flushRaised {bytes : List UInt8} {key : Option (List UInt8)} {d : Delivery} {g : Fault}
      {s' : World} :
      m.wireForm = .ok (bytes, key) → s.producer.next.1 = .deliver d →
      flushFault? (s.producer.inFlight ++ [d]) = some g →
      (∃ hs, s'.trace = s.trace ++ [.produce m.topic bytes key hs]) →
      Course m timeout s (if g.caughtOnPublish then .ok deliveryFailed else .error g) s'
  /-- A produced message is flushed: the answer is the status of its own report, and a
  purge follows exactly when the flush leaves messages undelivered. -/
  | flushed {bytes : List UInt8} {key : Option (List UInt8)} {d : Delivery} {n : Nat}
      {s' : World} :
      m.wireForm = .ok (bytes, key) → s.producer.next.1 = .deliver d →
      flushFault? (s.producer.inFlight ++ [d]) = none →
      (∃ hs, s'.trace = s.trace ++ .produce m.topic bytes key hs :: .flush timeout n ::
        (if 0 < n then [.purge true false] else [])) →
      Course m timeout s (.ok d.reportStatus) s'

/-- A publish is confirmed when the message has a wire form, `produce` takes it, its
flush raises nothing, and the message's own report says delivered. -/
def Confirmed (m : Message) (s : World) : Prop :=
  (∃ form, m.wireForm = .ok form) ∧
    ∃ d, s.producer.next.1 = .deliver d ∧ flushFault? (s.producer.inFlight ++ [d]) = none ∧
      d.report? = some .delivered

/-- An answer of -1, or an error passed on, is not zero. -/
theorem failed_ne_zero (caught : Bool) (f : Fault) :
    (if caught then .ok deliveryFailed else .error f : Except Fault Value) ≠ .ok (.int 0) := by
  cases caught <;> simp [deliveryFailed]

/-- By the rules, a publish answers zero exactly when it is confirmed. -/
theorem Course.eq_zero_iff {r : Except Fault Value} {s' : World}
    (course : Course m timeout s r s') : r = .ok (.int 0) ↔ Confirmed m s := by
  cases course with
  | unwritable wire =>
    simp [Confirmed, wire, deliveryFailed]
  | @refused bytes key f s' wire next =>
    simp [Confirmed, next, failed_ne_zero]
  | @flushRaised bytes key d g s' wire next raised =>
    -- the flush raised, so the publish is not confirmed
    simp only [failed_ne_zero, false_iff]
    rintro ⟨-, d', next', settled, -⟩
    rw [next, Producer.Step.deliver.injEq] at next'
    subst next'
    rw [raised] at settled
    cases settled
  | @flushed bytes key d n s' wire next settled =>
    rw [Except.ok.injEq, Delivery.reportStatus_eq_zero_iff]
    constructor
    · intro delivered
      exact ⟨⟨_, wire⟩, d, next, settled, delivered⟩
    · rintro ⟨-, d', next', -, delivered⟩
      rw [next, Producer.Step.deliver.injEq] at next'
      subst next'
      exact delivered

end Publish

/-- Every publish goes by the rules of the delivery status. -/
theorem publishOne_course (m : Message) (headers : List (List Value)) (timeout : Value)
    (s : World) :
    Publish.Course m timeout s (exec (publishOne m headers timeout) s).1
      (exec (publishOne m headers timeout) s).2 := by
  cases wire : m.wireForm with
  | error f =>
    rw [exec_publishOne_unwritable wire]
    exact .unwritable wire rfl
  | ok form =>
    obtain ⟨bytes, key⟩ := form
    obtain ⟨step, next, -⟩ := Producer.next_spec s.producer
    cases step with
    | failWith f =>
      obtain ⟨s', refused, traced⟩ := exec_publishOne_refused wire next headers timeout
      rw [refused]
      exact .refused wire (by rw [next]) ⟨_, traced⟩
    | deliver d =>
      obtain ⟨w, produced, inFlight, traced⟩ := exec_publishOne_produces wire next headers timeout
      rw [produced]
      -- the flush either raises what a message in flight makes it raise, or reports
      cases raised : flushFault? (s.producer.inFlight ++ [d]) with
      | some g =>
        obtain ⟨s', awaited, kept⟩ := exec_awaitReport_raises (m := m) d timeout (inFlight ▸ raised)
        rw [awaited]
        exact .flushRaised wire (by rw [next]) raised ⟨_, by rw [kept, traced]⟩
      | none =>
        obtain ⟨n, s', awaited, flushTrace⟩ :=
          exec_awaitReport_reports (m := m) d timeout (inFlight ▸ raised)
        rw [awaited]
        exact .flushed wire (by rw [next]) raised ⟨_, by rw [flushTrace, traced, List.append_assoc, List.singleton_append]⟩

end Courses

/-- The delivery status is exact: a publish goes by the rules of `Publish.Course`, and
it answers zero exactly when the message has a wire form, `produce` takes it, its flush
raises nothing and the message's own report says delivered. -/
theorem publish_status_exact (m : Message) (headers : List (List Value)) (timeout : Value)
    (s : World) :
    Publish.Course m timeout s (exec (publishOne m headers timeout) s).1
        (exec (publishOne m headers timeout) s).2 ∧
      ((exec (publishOne m headers timeout) s).1 = .ok (.int 0) ↔ Publish.Confirmed m s) :=
  ⟨publishOne_course m headers timeout s, (publishOne_course m headers timeout s).eq_zero_iff⟩

end PublishPool
