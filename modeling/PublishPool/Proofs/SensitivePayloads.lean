import PublishPool.Proofs.Containment

/-!
A Sensitive message's payload stays out of the log, as far as it can.

A Sensitive message's description leaves its payload out. What a worker does with a
payload is to write it for the wire and hand the bytes to the producer, which does
not read them. Writing fails for some payloads (`Value.wireBytes`); the fault's text
is then logged, and the failed attempt changes what the worker does next. What of a
Sensitive payload can steer a run is therefore whether it has a wire form, and the
fault if it has none: `Message.veil` keeps exactly that.

Worlds alike but for what the veil hides (`World.Alike`) stay alike step by step
(`step_alike`, one case per phase), a loop and a whole run of them end the same way,
and their logs agree line for line.

Main statement: `sensitive_payloads_stay_out_of_logs`. A Sensitive payload without
a wire form puts its fault's text in the log (`unwritable_sensitive_payload_logged`).
-/

namespace PublishPool

open Act

namespace Message

/-- The fault that keeps a message's payload off the wire, if any. -/
def wireFault? (m : Message) : Option Fault :=
  match m.payload.toValue.wireBytes with
  | .ok _ => none
  | .error f => some f

/-- What of a message can reach a worker's log or steer its work: all of it, but of
a Sensitive message's payload only the fault, if any, that keeps it off the wire. -/
def veil (m : Message) : Message × Option Fault :=
  if m.isSensitive then ({ m with payload := .text "" }, m.wireFault?) else (m, none)

variable {m m' : Message}

theorem veil_fst :
    m.veil.1 = { m with payload := if m.isSensitive then .text "" else m.payload } := by
  unfold veil
  split <;> simp_all

/-- Messages that show the same agree on everything but a Sensitive payload. -/
theorem shown_of_veil (same : m.veil = m'.veil) :
    m.kind = m'.kind ∧ m.topic = m'.topic ∧ m.key = m'.key ∧ m.headers = m'.headers := by
  have shown := congrArg Prod.fst same
  rw [veil_fst, veil_fst] at shown
  simp only [Message.mk.injEq] at shown
  exact ⟨shown.1, shown.2.1, shown.2.2.1, shown.2.2.2.1⟩

theorem isSensitive_eq_of_veil (same : m.veil = m'.veil) : m.isSensitive = m'.isSensitive := by
  unfold isSensitive
  rw [(shown_of_veil same).1]

/-- A message that is not Sensitive shows in full. -/
theorem eq_of_veil (same : m.veil = m'.veil) (plain : m.isSensitive = false) : m = m' := by
  have plain' : m'.isSensitive = false := (isSensitive_eq_of_veil same) ▸ plain
  simpa [veil, plain, plain'] using same

theorem wireFault_eq_of_veil (same : m.veil = m'.veil) : m.wireFault? = m'.wireFault? := by
  cases sensitive : m.isSensitive
  · rw [eq_of_veil same sensitive]
  · have sensitive' : m'.isSensitive = true := (isSensitive_eq_of_veil same) ▸ sensitive
    simpa [veil, sensitive, sensitive'] using congrArg Prod.snd same

/-- A Sensitive message's description does not read its payload. -/
theorem describe_payload (sensitive : m.isSensitive = true) (p : Payload) :
    { m with payload := p }.describe = m.describe := by
  have sensitive' : ({ m with payload := p } : Message).isSensitive = true := sensitive
  simp only [describe, sensitive, sensitive', ↓reduceIte]
  rfl

theorem describe_eq_of_veil (same : m.veil = m'.veil) : m.describe = m'.describe := by
  cases sensitive : m.isSensitive
  · rw [eq_of_veil same sensitive]
  · have sensitive' : m'.isSensitive = true := (isSensitive_eq_of_veil same) ▸ sensitive
    have blank := congrArg Prod.fst same
    rw [veil_fst, veil_fst, sensitive, sensitive'] at blank
    simp only [↓reduceIte] at blank
    rw [← describe_payload sensitive (.text ""), blank, describe_payload sensitive']

end Message

theorem Worker.clientHeaders_eq_of_veil {m m' : Message} (same : m.veil = m'.veil) :
    Worker.clientHeaders m = Worker.clientHeaders m' := by
  unfold Worker.clientHeaders
  rw [(Message.shown_of_veil same).2.2.2]

/-- Lists of messages that show the same are as long. -/
theorem length_eq_of_veil {work work' : List Message}
    (same : work.map Message.veil = work'.map Message.veil) : work.length = work'.length := by
  simpa using congrArg List.length same

/-! ### Alike queues and worlds -/

/-- Two results alike: one fault, or values related by `rel`. -/
inductive Except.Alike {α : Type} (rel : α → α → Prop) : Except Fault α → Except Fault α → Prop
  | error (f : Fault) : Except.Alike rel (.error f) (.error f)
  | ok {a a' : α} : rel a a' → Except.Alike rel (.ok a) (.ok a')

/-- Two queues alike: the same lock, and messages that show the same, in order. -/
structure WorkQueue.Alike (q q' : WorkQueue) : Prop where
  items : q.items.map Message.veil = q'.items.map Message.veil
  lockTimeout : q.lockTimeout = q'.lockTimeout
  waitOverflows : q.waitOverflows = q'.waitOverflows
  held : q.held = q'.held

namespace WorkQueue.Alike

variable {q q' : WorkQueue}

theorem acquire (alike : Alike q q') : q.acquire = q'.acquire := by
  unfold WorkQueue.acquire
  rw [alike.waitOverflows, alike.held]

/-- Alike queues take alike batches alike. -/
theorem enqueue (alike : Alike q q') {msgs msgs' : List Message}
    (same : msgs.map Message.veil = msgs'.map Message.veil) :
    Except.Alike (fun r r' => r.1 = r'.1 ∧ Alike r.2 r'.2) (q.enqueue msgs) (q'.enqueue msgs') := by
  have empty : msgs.isEmpty = msgs'.isEmpty := by
    have long := length_eq_of_veil same
    cases msgs <;> cases msgs' <;> simp_all
  unfold WorkQueue.enqueue
  rw [empty, alike.acquire, alike.lockTimeout]
  cases msgs'.isEmpty
  · cases q'.acquire with
    | refused f => exact .error f
    | busy => exact .error _
    | taken =>
      refine .ok ⟨?_, ⟨?_, rfl, alike.waitOverflows, alike.held⟩⟩
      · simp [length_eq_of_veil alike.items, length_eq_of_veil same]
      · simp [alike.items, same]
  · exact .error _

/-- Alike queues give alike front batches, and stay alike. -/
theorem drain (alike : Alike q q') (bound : Value) :
    Except.Alike (Option.Rel fun r r' => r.1.map Message.veil = r'.1.map Message.veil ∧
      Alike r.2 r'.2) (q.drain bound) (q'.drain bound) := by
  unfold WorkQueue.drain
  rw [alike.acquire, length_eq_of_veil alike.items]
  cases q'.acquire with
  | refused f => exact .error f
  | busy => exact .ok .none
  | taken =>
    cases WorkQueue.sliceBound bound with
    | error f => exact .error f
    | ok k =>
      refine .ok (.some ⟨?_, ⟨?_, alike.lockTimeout, alike.waitOverflows, alike.held⟩⟩)
      · simp only [List.map_take, alike.items]
      · simp only [List.map_drop, alike.items]

end WorkQueue.Alike

/-- Two worlds alike but for what the veil hides and for the trace: queues alike,
and everything else a worker reads or logs the same. -/
structure World.Alike (s s' : World) : Prop where
  queue : WorkQueue.Alike s.queue s'.queue
  stop : s.stopSet = s'.stopSet
  producer : s.producer = s'.producer
  idle : s.idle = s'.idle
  metrics : s.metrics = s'.metrics
  log : s.log = s'.log

/-- Two runs of a step alike: alike results, from alike worlds. -/
def Answered {α : Type} (rel : α → α → Prop) (x y : Except Fault α × World) : Prop :=
  Except.Alike rel x.1 y.1 ∧ World.Alike x.2 y.2

/-! ### Steps from alike worlds -/

variable {s s' : World}

theorem exec_drain_alike (alike : World.Alike s s') (bound : Value) :
    Answered (fun batch batch' => batch.map Message.veil = batch'.map Message.veil)
      (exec (drain bound) s) (exec (drain bound) s') := by
  rw [exec_drain, exec_drain]
  have drained := alike.queue.drain bound
  generalize s.queue.drain bound = r at drained ⊢
  generalize s'.queue.drain bound = r' at drained ⊢
  cases drained with
  | error f => exact ⟨.error f, alike⟩
  | ok taken =>
    cases taken with
    | none =>
      exact ⟨.ok rfl, { alike with log := by rw [alike.log, alike.queue.lockTimeout] }⟩
    | some same =>
      obtain ⟨batches, queues⟩ := same
      exact ⟨.ok batches, { alike with queue := queues }⟩

theorem exec_enqueue_alike (alike : World.Alike s s') {msgs msgs' : List Message}
    (same : msgs.map Message.veil = msgs'.map Message.veil) :
    Answered Eq (exec (enqueue msgs) s) (exec (enqueue msgs') s') := by
  rw [exec_enqueue, exec_enqueue]
  have taken := alike.queue.enqueue same
  generalize s.queue.enqueue msgs = r at taken ⊢
  generalize s'.queue.enqueue msgs' = r' at taken ⊢
  cases taken with
  | error f =>
    refine ⟨.error f, ?_⟩
    cases refusal : WorkQueue.isRefusal f
    · simpa only [refusal, Bool.false_eq_true, ↓reduceIte] using alike
    · simp only [refusal, ↓reduceIte]
      exact { alike with log := by rw [alike.log] }
  | ok same =>
    obtain ⟨length, queues⟩ := same
    exact ⟨.ok length, { alike with queue := queues }⟩

/-- Flushing reads only the producer. -/
theorem exec_flushAndPurge_alike (alike : World.Alike s s') (timeout : Value) :
    Answered Eq (exec (flushAndPurge timeout) s) (exec (flushAndPurge timeout) s') := by
  unfold flushAndPurge
  simp only [exec_bind, exec_get, exec_modify]
  rw [← alike.producer]
  generalize s.producer.flush = flushed
  obtain ⟨flushed, p⟩ := flushed
  cases flushed with
  | error f => exact ⟨.error f, { alike with producer := rfl }⟩
  | ok remaining =>
    simp only [exec_ofResult, exec_record]
    by_cases more : remaining > 0
    · simp only [more, ↓reduceIte, exec_bind, exec_logError, exec_record, exec_get]
      cases p.purge with
      | ok p' =>
        simp only [exec_modify]
        exact ⟨.ok rfl, { alike with producer := rfl, log := by rw [alike.log] }⟩
      | error f =>
        simp only [exec_logError]
        exact ⟨.ok rfl, { alike with producer := rfl, log := by rw [alike.log] }⟩
    · simp only [more, ↓reduceIte, exec_pure]
      exact ⟨.ok rfl, { alike with producer := rfl }⟩

/-- A failed publish logs the message's topic and the fault's text only. -/
theorem exec_produceFailed_alike (alike : World.Alike s s') {m m' : Message}
    (topic : m.topic = m'.topic) (text : String) :
    Answered Eq (exec (produceFailed m text) s) (exec (produceFailed m' text) s') := by
  rw [exec_produceFailed, exec_produceFailed, topic]
  exact ⟨.ok rfl, { alike with log := by rw [alike.log] }⟩

/-- Waiting for a report reads only the producer, and the message's topic for the log. -/
theorem exec_awaitReport_alike (alike : World.Alike s s') {m m' : Message}
    (topic : m.topic = m'.topic) (d : Delivery) (timeout : Value) :
    Answered Eq (exec (awaitReport m d timeout) s) (exec (awaitReport m' d timeout) s') := by
  unfold awaitReport
  simp only [exec_bind, exec_attempt]
  have flushed := exec_flushAndPurge_alike alike timeout
  generalize exec (flushAndPurge timeout) s = x at flushed ⊢
  generalize exec (flushAndPurge timeout) s' = y at flushed ⊢
  obtain ⟨r, t⟩ := x
  obtain ⟨r', t'⟩ := y
  obtain ⟨results, worlds⟩ := flushed
  cases results with
  | error f =>
    dsimp only
    cases caught : f.caughtOnPublish
    · simp only [Bool.false_eq_true, ↓reduceIte, exec_fail]
      exact ⟨.error f, worlds⟩
    · simp only [↓reduceIte]
      exact exec_produceFailed_alike worlds topic _
  | ok same =>
    cases same
    exact ⟨.ok rfl, worlds⟩

/-- Messages that show the same have wire forms alike: both kept off the wire by the
same fault, or both written, with the same key. -/
theorem Message.wireForm_alike {m m' : Message} (same : m.veil = m'.veil) :
    (∃ f, m.wireForm = .error f ∧ m'.wireForm = .error f) ∨
      ∃ bytes bytes' key, m.wireForm = .ok (bytes, key) ∧ m'.wireForm = .ok (bytes', key) := by
  have faults := Message.wireFault_eq_of_veil same
  have key := (Message.shown_of_veil same).2.2.1
  unfold Message.wireFault? at faults
  unfold Message.wireForm
  rw [← key]
  cases wire : m.payload.toValue.wireBytes with
  | error f =>
    cases wire' : m'.payload.toValue.wireBytes with
    | ok bytes => simp [wire, wire'] at faults
    | error f' =>
      simp only [wire, wire', Option.some.injEq] at faults
      exact .inl ⟨f, rfl, by rw [faults]; rfl⟩
  | ok bytes =>
    cases wire' : m'.payload.toValue.wireBytes with
    | error f' => simp [wire, wire'] at faults
    | ok bytes' =>
      -- the key is the same, so it encodes alike
      by_cases empty : m.key.isEmpty = true
      · exact .inr ⟨bytes, bytes', none, by simp [bind, Except.bind, pure, Except.pure, empty],
          by simp [bind, Except.bind, pure, Except.pure, empty]⟩
      · cases encoded : Text.encode m.key with
        | error f =>
          exact .inl ⟨f, by simp [bind, Except.bind, empty, Functor.map, Except.map],
            by simp [bind, Except.bind, empty, Functor.map, Except.map]⟩
        | ok k =>
          exact .inr ⟨bytes, bytes', some k, by
            simp [bind, Except.bind, pure, Except.pure, empty, Functor.map, Except.map],
            by simp [bind, Except.bind, pure, Except.pure, empty, Functor.map, Except.map]⟩

/-- Publishing messages that show the same, from alike worlds: the same status. -/
theorem exec_publishOne_alike (alike : World.Alike s s') {m m' : Message}
    (same : m.veil = m'.veil) (headers : List (List Value)) (timeout : Value) :
    Answered Eq (exec (publishOne m headers timeout) s) (exec (publishOne m' headers timeout) s') := by
  have topic := (Message.shown_of_veil same).2.1
  unfold publishOne
  rcases Message.wireForm_alike same with ⟨f, wire, wire'⟩ | ⟨bytes, bytes', key, wire, wire'⟩
  · -- the same fault keeps both messages off the wire, and its text is logged
    rw [wire, wire']
    exact exec_produceFailed_alike alike topic _
  · -- the producer takes the same step whatever the bytes
    rw [wire, wire']
    simp only [exec_bind, exec_record, exec_get, exec_modify]
    rw [← alike.producer]
    generalize s.producer.produce = produced
    obtain ⟨p, r⟩ := produced
    cases r with
    | error f =>
      cases expected : f.expected
      · simp only [expected, Bool.false_eq_true, ↓reduceIte, exec_fail]
        exact ⟨.error _, { alike with producer := rfl }⟩
      · simp only [expected, ↓reduceIte]
        refine exec_produceFailed_alike ?_ topic _
        exact { alike with producer := rfl }
    | ok d =>
      dsimp only
      cases holds : d.holdsLock
      · simp only [Bool.false_eq_true, ↓reduceIte]
        refine exec_awaitReport_alike ?_ topic d timeout
        exact { alike with producer := rfl }
      · -- another party takes the lock in both worlds alike
        simp only [↓reduceIte, exec_bind, exec_modify]
        refine exec_awaitReport_alike ?_ topic d timeout
        exact { alike with queue := { alike.queue with held := rfl }, producer := rfl }

/-- An idle offer's outcome is recorded when it failed; alike outcomes stay alike. -/
theorem Answered.recorded {x y : Except Fault Nat × World} (answered : Answered Eq x y) :
    Answered Eq
      (exec (match x.1 with
        | .ok _ => pure ()
        | .error f => record (.idleEnqueueError f)) x.2)
      (exec (match y.1 with
        | .ok _ => pure ()
        | .error f => record (.idleEnqueueError f)) y.2) := by
  obtain ⟨r, t⟩ := x
  obtain ⟨r', t'⟩ := y
  obtain ⟨results, worlds⟩ := answered
  cases results with
  | error f => exact ⟨.ok rfl, { worlds with }⟩
  | ok _ => exact ⟨.ok rfl, worlds⟩

theorem exec_idleWait_alike (w : Worker) (alike : World.Alike s s') :
    Answered Eq (exec w.idleWait s) (exec w.idleWait s') := by
  unfold Worker.idleWait
  simp only [exec_bind, exec_record, exec_get]
  rw [← alike.stop, ← alike.idle]
  cases stop : s.stopSet
  · simp only [Bool.false_eq_true, ↓reduceIte, exec_bind, exec_get]
    cases next : s.idle with
    | nil => exact ⟨.ok rfl, { alike with stop := rfl, idle := rfl }⟩
    | cons step rest =>
      simp only [exec_bind, exec_modify]
      cases step with
      | offer batch =>
        simp only [exec_bind, exec_attempt, exec_ofResult]
        -- both worlds read the same offer, and offer the same messages to alike queues
        cases iterated : batch.iterate with
        | error f =>
          simp only [exec_record]
          exact ⟨.ok rfl, { alike with stop := rfl, idle := rfl }⟩
        | ok docs =>
          cases read : docs.mapM Message.ofDocument with
          | error f =>
            simp only [read, exec_record]
            exact ⟨.ok rfl, { alike with stop := rfl, idle := rfl }⟩
          | ok msgs =>
            simp only [read]
            refine Answered.recorded (exec_enqueue_alike ?_ rfl)
            exact { alike with stop := rfl, idle := rfl }
      | releaseLock =>
        simp only [exec_modify]
        exact ⟨.ok rfl,
          { alike with queue := { alike.queue with held := rfl }, stop := rfl, idle := rfl }⟩
      | setStop =>
        simp only [exec_modify]
        exact ⟨.ok rfl, { alike with stop := rfl, idle := rfl }⟩
      | halt =>
        simp only [exec_bind, exec_modify, exec_record]
        exact ⟨.ok rfl, { alike with stop := rfl, idle := rfl }⟩
  · simp only [↓reduceIte, exec_pure]
    exact ⟨.ok rfl, { alike with stop := rfl, idle := rfl }⟩

namespace Worker

/-- Two phases alike: the same phase, over messages that show the same. -/
inductive Phase.Alike : Phase → Phase → Prop
  | draining : Phase.Alike .draining .draining
  | idle : Phase.Alike .idle .idle
  | handling {work work' : List Message} :
      work.map Message.veil = work'.map Message.veil → Phase.Alike (.handling work) (.handling work')
  | publishing {m m' : Message} {headers : List (List Value)} {made : Nat}
      {rest rest' : List Message} : m.veil = m'.veil →
      rest.map Message.veil = rest'.map Message.veil →
      Phase.Alike (.publishing m headers made rest) (.publishing m' headers made rest')
  | requeueing {m m' : Message} {rest rest' : List Message} : m.veil = m'.veil →
      rest.map Message.veil = rest'.map Message.veil →
      Phase.Alike (.requeueing m rest) (.requeueing m' rest')
  | stopped : Phase.Alike .stopped .stopped

theorem Phase.Alike.isStopped {ph ph' : Phase} (alike : Phase.Alike ph ph') :
    ph.isStopped = ph'.isStopped := by
  cases alike <;> rfl

/-! ### A worker's steps from alike worlds -/

variable {w : Worker} {s s' : World}

theorem dropped_alike (alike : World.Alike s s') (reason : DropReason) (n : Nat) :
    World.Alike (w.dropped s reason n) (w.dropped s' reason n) :=
  { alike with metrics := by rw [dropped, dropped, alike.metrics],
               log := by rw [dropped, dropped, alike.log] }

/-- A failed attempt logs the message's description, which the veil keeps. -/
theorem failedAttempt_alike (alike : World.Alike s s') {m m' : Message}
    (same : m.veil = m'.veil) (status : Value) (attempt : Nat) :
    World.Alike (w.failedAttempt s m status attempt) (w.failedAttempt s' m' status attempt) :=
  { alike with metrics := by rw [failedAttempt, failedAttempt, alike.metrics],
               log := by rw [failedAttempt, failedAttempt, alike.log,
                 Message.describe_eq_of_veil same] }

theorem gaveUp_alike (alike : World.Alike s s') {m m' : Message} (same : m.veil = m'.veil)
    (attempt : Nat) : World.Alike (w.gaveUp s m attempt) (w.gaveUp s' m' attempt) := by
  unfold gaveUp
  refine dropped_alike ?_ _ _
  exact { alike with log := by rw [alike.log, Message.describe_eq_of_veil same] }

theorem requeued_alike (alike : World.Alike s s') {m m' : Message} (same : m.veil = m'.veil) :
    World.Alike (w.requeued s m) (w.requeued s' m') := by
  have offered : Except.Alike (fun r r' => r.1 = r'.1 ∧ WorkQueue.Alike r.2 r'.2)
      (s.queue.enqueue [m]) (s'.queue.enqueue [m']) := alike.queue.enqueue (by simp [same])
  unfold requeued
  generalize s.queue.enqueue [m] = r at offered ⊢
  generalize s'.queue.enqueue [m'] = r' at offered ⊢
  cases offered with
  | error f => exact { alike with log := by rw [alike.log] }
  | ok taken => exact { alike with queue := taken.2 }

theorem stepBudget_alike (alike : World.Alike s s') : w.stepBudget s = w.stepBudget s' := by
  unfold stepBudget
  rw [length_eq_of_veil alike.queue.items, alike.idle, alike.producer]

/-- The final flush, once it answered, logs alike. -/
theorem closed_alike (alike : World.Alike s s') (remaining : Nat) :
    World.Alike (w.closed s remaining) (w.closed s' remaining) :=
  { alike with log := by rw [closed, closed, alike.log] }

/-- The final flush reads only the producer, so runs whose loops ended alike end
alike. -/
theorem finish_alike {x y : Except Fault Unit × World} (answered : Answered Eq x y) :
    Answered Eq
      (match x.2.producer.flush with
        | (.error f, p) => (.error f, { x.2 with producer := p })
        | (.ok remaining, p) => (x.1, w.closed { x.2 with producer := p } remaining))
      (match y.2.producer.flush with
        | (.error f, p) => (.error f, { y.2 with producer := p })
        | (.ok remaining, p) => (y.1, w.closed { y.2 with producer := p } remaining)) := by
  obtain ⟨r, t⟩ := x
  obtain ⟨r', t'⟩ := y
  obtain ⟨results, worlds⟩ := answered
  dsimp only
  rw [← worlds.producer]
  cases t.producer.flush with
  | mk flushed p =>
    cases flushed with
    | error f => exact ⟨.error f, { worlds with producer := rfl }⟩
    | ok remaining =>
      refine ⟨results, closed_alike ?_ remaining⟩
      exact { worlds with producer := rfl }

/-- Taking up the next message of alike batches: both end the batch, or both take up a
message of the same kind, alike. -/
theorem handling_alike (alike : World.Alike s s') {work work' : List Message}
    (same : work.map Message.veil = work'.map Message.veil) :
    Answered Phase.Alike (exec (w.step w.idleWait (.handling work)) s)
      (exec (w.step w.idleWait (.handling work')) s') := by
  cases work with
  | nil =>
    cases work' with
    | nil => exact ⟨.ok .draining, alike⟩
    | cons _ _ => simp at same
  | cons m rest =>
    cases work' with
    | nil => simp at same
    | cons m' rest' =>
      simp only [List.map_cons, List.cons.injEq] at same
      obtain ⟨head, tail⟩ := same
      have kind := (Message.shown_of_veil head).1
      cases shown : m.kind with
      | shutdown =>
        rw [exec_step_shutdown w _ s shown, exec_step_shutdown w _ s' (kind ▸ shown)]
        exact ⟨.ok (.requeueing head tail), { alike with stop := rfl }⟩
      | data | sensitive =>
        have publishable : m.kind = .data ∨ m.kind = .sensitive := by simp [shown]
        have publishable' : m'.kind = .data ∨ m'.kind = .sensitive := kind ▸ publishable
        -- the headers are the same, so they convert alike
        have headers := clientHeaders_eq_of_veil head
        cases converted : clientHeaders m with
        | ok hs =>
          rw [exec_step_publishable w _ s publishable rest converted,
            exec_step_publishable w _ s' publishable' rest' (headers ▸ converted)]
          exact ⟨.ok (.publishing head tail), alike⟩
        | error f =>
          rw [exec_step_unconvertible w _ s publishable rest converted,
            exec_step_unconvertible w _ s' publishable' rest' (headers ▸ converted)]
          exact ⟨.error f, alike⟩
      | brokerDetails =>
        rw [exec_step_brokerDetails w _ s (.inl shown),
          exec_step_brokerDetails w _ s' (.inl (kind ▸ shown)), length_eq_of_veil tail]
        exact ⟨.ok .draining, dropped_alike alike _ _⟩
      | brokerTopicDetails =>
        rw [exec_step_brokerDetails w _ s (.inr shown),
          exec_step_brokerDetails w _ s' (.inr (kind ▸ shown)), length_eq_of_veil tail]
        exact ⟨.ok .draining, dropped_alike alike _ _⟩
      | unsupported name =>
        rw [exec_step_unsupported w _ s shown, exec_step_unsupported w _ s' (kind ▸ shown),
          length_eq_of_veil tail]
        refine ⟨.ok .draining, dropped_alike ?_ _ _⟩
        exact { alike with log := by rw [alike.log] }

/-- One attempt to publish alike messages: the same status, counted and logged alike,
and the policy deciding alike. -/
theorem publishing_alike (alike : World.Alike s s') {m m' : Message} (same : m.veil = m'.veil)
    (headers : List (List Value)) (made : Nat) {rest rest' : List Message}
    (tail : rest.map Message.veil = rest'.map Message.veil) :
    Answered Phase.Alike (exec (w.step w.idleWait (.publishing m headers made rest)) s)
      (exec (w.step w.idleWait (.publishing m' headers made rest')) s') := by
  rw [exec_step_publishing, exec_step_publishing]
  have sent := exec_publishOne_alike alike same headers w.publishTimeout.toValue
  generalize exec (publishOne m headers w.publishTimeout.toValue) s = x at sent ⊢
  generalize exec (publishOne m' headers w.publishTimeout.toValue) s' = y at sent ⊢
  obtain ⟨r, t⟩ := x
  obtain ⟨r', t'⟩ := y
  obtain ⟨results, worlds⟩ := sent
  cases results with
  | error f => exact ⟨.error f, worlds⟩
  | @ok status status' equal =>
    subst equal
    dsimp only
    by_cases zero : status.isZero
    · simp only [zero, ↓reduceIte]
      exact ⟨.ok (.handling tail), { worlds with metrics := by rw [worlds.metrics] }⟩
    · -- a failed attempt: both worlds count and log it alike, and the policy decides alike
      simp only [zero, Bool.false_eq_true, ↓reduceIte]
      have failed := failedAttempt_alike (w := w) worlds same status (made + 1)
      cases w.policy.shouldRetry (.int ((made + 1 : Nat) : Int)) with
      | error f => exact ⟨.error f, failed⟩
      | ok again =>
        cases again with
        | false => exact ⟨.ok (.handling tail), gaveUp_alike failed same (made + 1)⟩
        | true =>
          cases w.policy.delay (.int ((made + 1 : Nat) : Int)) with
          | error f => exact ⟨.error f, failed⟩
          | ok pause =>
            dsimp only
            cases w.clock.refusal? pause with
            | some f => exact ⟨.error f, failed⟩
            | none => exact ⟨.ok (.publishing same tail), { failed with }⟩

/-- One step from alike worlds and phases: the same fault, or alike phases next;
and alike worlds after it. -/
theorem step_alike (alike : World.Alike s s') {ph ph' : Phase} (phases : Phase.Alike ph ph') :
    Answered Phase.Alike (exec (w.step w.idleWait ph) s) (exec (w.step w.idleWait ph') s') := by
  cases phases with
  | draining =>
    rw [exec_step_draining, exec_step_draining]
    have drained := exec_drain_alike alike (.int w.settings.maxBatchSize)
    generalize exec (drain (.int w.settings.maxBatchSize)) s = x at drained ⊢
    generalize exec (drain (.int w.settings.maxBatchSize)) s' = y at drained ⊢
    obtain ⟨r, t⟩ := x
    obtain ⟨r', t'⟩ := y
    obtain ⟨results, worlds⟩ := drained
    cases results with
    | error f => exact ⟨.error f, worlds⟩
    | @ok batch batch' same =>
      -- an empty batch shows as empty
      have empty : batch.isEmpty = batch'.isEmpty := by
        have long := length_eq_of_veil same
        cases batch <;> cases batch' <;> simp_all
      refine ⟨.ok ?_, worlds⟩
      rw [empty]
      cases batch'.isEmpty
      · exact .handling same
      · exact .idle
  | idle =>
    rw [exec_step_idle, exec_step_idle, ← alike.stop]
    cases stop : s.stopSet
    · have waited := exec_idleWait_alike w alike
      simp only [Bool.false_eq_true, ↓reduceIte]
      generalize exec w.idleWait s = x at waited ⊢
      generalize exec w.idleWait s' = y at waited ⊢
      obtain ⟨r, t⟩ := x
      obtain ⟨r', t'⟩ := y
      obtain ⟨results, worlds⟩ := waited
      cases results with
      | error f => exact ⟨.error f, worlds⟩
      | ok _ => exact ⟨.ok .draining, worlds⟩
    · exact ⟨.ok .stopped, alike⟩
  | @handling work work' same => exact handling_alike alike same
  | @publishing m m' headers made rest rest' same tail =>
    exact publishing_alike alike same headers made tail
  | @requeueing m m' rest rest' same tail =>
    rw [exec_step_requeueing, exec_step_requeueing, length_eq_of_veil tail]
    have requeued := requeued_alike (w := w) alike same
    have empty : rest.isEmpty = rest'.isEmpty := by
      have long := length_eq_of_veil tail
      cases rest <;> cases rest' <;> simp_all
    rw [empty]
    cases rest'.isEmpty
    · -- the rest of the batch is dropped alike
      simp only [Bool.false_eq_true, ↓reduceIte]
      refine ⟨.ok .stopped, dropped_alike ?_ _ _⟩
      exact { requeued with log := by rw [requeued.log] }
    · exact ⟨.ok .stopped, requeued⟩
  | stopped => exact ⟨.ok .stopped, alike⟩

/-- Loops from alike worlds and phases end the same way, in alike worlds. -/
theorem loop_alike (fuel : Nat) : ∀ {ph ph' : Phase} {t t' : World}, World.Alike t t' →
    Phase.Alike ph ph' →
    Answered Eq (exec (w.loop w.idleWait fuel ph) t) (exec (w.loop w.idleWait fuel ph') t') := by
  induction fuel with
  | zero =>
    intro ph ph' t t' alike phases
    unfold loop
    rw [phases.isStopped]
    cases ph'.isStopped
    · simp only [Bool.false_eq_true, ↓reduceIte, exec_fail]
      exact ⟨.error _, alike⟩
    · exact ⟨.ok rfl, alike⟩
  | succ fuel later =>
    intro ph ph' t t' alike phases
    cases going : ph'.isStopped
    · rw [exec_loop_succ w _ fuel (phases.isStopped.trans going), exec_loop_succ w _ fuel going]
      have stepped := step_alike (w := w) alike phases
      generalize exec (w.step w.idleWait ph) t = x at stepped ⊢
      generalize exec (w.step w.idleWait ph') t' = y at stepped ⊢
      obtain ⟨r, u⟩ := x
      obtain ⟨r', u'⟩ := y
      obtain ⟨results, worlds⟩ := stepped
      cases results with
      | error f => exact ⟨.error f, worlds⟩
      | ok next => exact later worlds next
    · have stops : ph.isStopped = true := phases.isStopped.trans going
      simp only [loop, going, stops, ↓reduceIte, exec_pure]
      exact ⟨.ok rfl, alike⟩

/-- Runs from alike worlds end the same way, in alike worlds. -/
theorem run_alike (alike : World.Alike s s') (factory : Factory) :
    Answered Eq (exec (w.run factory) s) (exec (w.run factory) s') := by
  -- connecting adds the same lines and events to both worlds
  obtain ⟨created, lines, events, connects⟩ := exec_connect w factory
  have connected : World.Alike { s with log := s.log ++ lines, trace := s.trace ++ events }
      { s' with log := s'.log ++ lines, trace := s'.trace ++ events } :=
    { alike with log := by rw [alike.log] }
  cases created
  · rw [exec_run_uncreated (connects s), exec_run_uncreated (connects s')]
    exact ⟨.ok rfl, connected⟩
  · rw [exec_run_created (connects s), exec_run_created (connects s'), stepBudget_alike connected]
    exact finish_alike (loop_alike (w := w) (w.stepBudget _) connected .draining)

end Worker

theorem Except.Alike.eq {α : Type} {r r' : Except Fault α} (alike : Except.Alike Eq r r') :
    r = r' := by
  cases alike with
  | error f => rfl
  | ok same => rw [same]

/-- Two Sensitive messages that agree on topic, key and headers are described
alike. -/
theorem Message.describe_sensitive {m m' : Message} (sensitive : m.kind = .sensitive)
    (sensitive' : m'.kind = .sensitive) (topic : m.topic = m'.topic) (key : m.key = m'.key)
    (headers : m.headers = m'.headers) : m.describe = m'.describe := by
  have blank : ({ m with payload := m'.payload } : Message) = m' := by
    cases m
    cases m'
    simp_all
  rw [← describe_payload (by simp [isSensitive, sensitive]) m'.payload, blank]

open Worker in
/-- A Sensitive payload stays out of the log, as far as it can. Two Sensitive
messages that agree on topic, key and headers are described alike, plainly and in
brackets. Two runs of a worker from worlds alike but for Sensitive payloads, where
each pair of them either both have a wire form or are both kept off the wire by the
same fault, end the same way and log the same lines. -/
theorem sensitive_payloads_stay_out_of_logs :
    (∀ m m' : Message, m.kind = .sensitive → m'.kind = .sensitive → m.topic = m'.topic →
      m.key = m'.key → m.headers = m'.headers →
      m.describe = m'.describe ∧ m.bracketed = m'.bracketed) ∧
    (∀ (w : Worker) (factory : Factory) (s s' : World), World.Alike s s' →
      (exec (w.run factory) s).1 = (exec (w.run factory) s').1 ∧
      (exec (w.run factory) s).2.log = (exec (w.run factory) s').2.log) := by
  refine ⟨fun m m' sensitive sensitive' topic key headers => ?_, fun w factory s s' alike => ?_⟩
  · have described := Message.describe_sensitive sensitive sensitive' topic key headers
    exact ⟨described, by rw [Message.bracketed, Message.bracketed, described]⟩
  · obtain ⟨results, worlds⟩ := run_alike (w := w) alike factory
    exact ⟨results.eq, worlds.log⟩

/-- Two Sensitive messages with text payloads, each ahead of a Shutdown message:
described alike, and their runs log the same lines. -/
theorem sensitive_text_payloads_log_alike :
    let settings : Settings := { brokers := ["localhost:9092"], retryMaxAttempts := some 1 }
    let w : Worker := { threadNum := .int 0, label := "ktp-tid-1", settings,
                        policy := RetryPolicy.ofSettings settings, publishTimeout := .int 6 }
    let quiet : Message := { kind := .sensitive, topic := "testing", key := "k", payload := .text "x" }
    let other : Message := { quiet with payload := .text "y" }
    let s : World := {
      queue := {
        lockTimeout := 10.0
        waitOverflows := false
        items := [quiet, { kind := .shutdown }] } }
    let s' : World := { queue := { s.queue with items := [other, { kind := .shutdown }] } }
    World.Alike s s' ∧ quiet.describe = other.describe ∧
      (exec (w.run .works) s).2.log = (exec (w.run .works) s').2.log := by
  intro settings w quiet other s s'
  -- both text payloads have a wire form, so the messages show the same
  have written : quiet.wireFault?.isNone = true ∧ other.wireFault?.isNone = true := by
    decide +kernel
  have same : quiet.veil = other.veil := by
    simp only [Option.isNone_iff_eq_none] at written
    simp [Message.veil, Message.isSensitive, quiet, other, written.1, written.2]
  have alike : World.Alike s s' := ⟨⟨by simp [s, s', same], rfl, rfl, rfl⟩, rfl, rfl, rfl, rfl, rfl⟩
  obtain ⟨described, runs⟩ := sensitive_payloads_stay_out_of_logs
  exact ⟨alike, (described quiet other rfl rfl rfl rfl rfl).1, (runs w .works s s' alike).2⟩

/-- Two Sensitive messages that differ only in their payloads, one of which holds an
integer beyond 64 bits, on a worker with one attempt per message: the first run
logs nothing, the second logs the fault, the failed attempt, the message given up
and its drop. -/
theorem unwritable_sensitive_payload_logged :
    let settings : Settings := {
      brokers := ["localhost:9092"]
      logLabel := .str "test"
      topics := ["testing"]
      retryMaxAttempts := some 1 }
    let w : Worker := { threadNum := .int 0, label := "test-tid-1", settings,
                        policy := RetryPolicy.ofSettings settings, publishTimeout := .int 6 }
    let quiet : Message := { kind := .sensitive, topic := "testing", key := "k", payload := .text "x" }
    let loud : Message := { quiet with payload := .dict [("a", .int 18446744073709551616)] }
    let s : World := {
      queue := {
        lockTimeout := 10.0
        waitOverflows := false
        items := [quiet, { kind := .shutdown }] } }
    let s' : World := { queue := { s.queue with items := [loud, { kind := .shutdown }] } }
    (exec (w.run .works) s).2.log = [] ∧ (exec (w.run .works) s').2.log.length = 4 := by
  intro settings w quiet loud s s'
  exact ⟨List.isEmpty_iff.mp (by decide +kernel), by decide +kernel⟩

end PublishPool
