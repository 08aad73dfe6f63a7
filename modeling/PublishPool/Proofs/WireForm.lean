import PublishPool.Proofs.Containment

/-!
Every message with a wire form is published, and no other.

A message has a wire form when `Message.wireForm` can write it: its payload must be
written by `Value.wireBytes`, which fails for a list or mapping that holds an integer
outside 64 bits, bytes, or nesting too deep, and its key encoded as UTF-8, which fails
for a key with a lone surrogate (`Message.wireForm_ok_iff`); message validation lets
all of these through. A worker whose policy has no attempt limit, on a producer that
delivers every message, publishes a message with a wire form at its first attempt; a
message without one fails every attempt, and the worker retries it for as long as it
runs (`loop_stalls`).

On a queue of Data and Sensitive messages, whose headers convert, followed by one
Shutdown message, a run therefore ends exactly when every message has a wire form,
and it then publishes each message once, in queue order.

Main statement: `worker_publishes_every_wire_ready_message`. A payload with an
integer beyond 64 bits stops the worker for good (`unwritable_payload_blocks_worker`).
-/

namespace PublishPool

open Act

/-- The topic and payload bytes a message is produced with, when it has a wire
form. -/
def Message.wire? (m : Message) : Option (String × List UInt8) :=
  match m.wireForm with
  | .ok (bytes, _) => some (m.topic, bytes)
  | .error _ => none

/-- The topic and bytes of a produced message. -/
def Event.produced? : Event → Option (String × List UInt8)
  | .produce topic value _ _ => some (topic, value)
  | _ => none

/-- The messages a world's trace shows produced, in order. -/
def World.produced (s : World) : List (String × List UInt8) :=
  s.trace.filterMap Event.produced?

/-- A world in which nothing hinders a worker's publishing: the queue lock is free
and measurable, and the producer, with nothing in flight, delivers every message at
the next flush. -/
structure Smooth (s : World) : Prop where
  free : s.queue.held = false
  measurable : s.queue.waitOverflows = false
  fresh : s.producer.inFlight = []
  delivers : ∀ step ∈ s.producer.script, step = .deliver .ok

variable {s : World}

theorem Smooth.calm (smooth : Smooth s) : Calm s :=
  ⟨smooth.free, smooth.measurable, smooth.fresh, fun step mem => by
    rw [smooth.delivers step mem]
    exact ⟨rfl, fun f none => by cases none⟩⟩

theorem Aloof.smooth {s' : World} (aloof : Aloof s s') (smooth : Smooth s) : Smooth s' :=
  ⟨aloof.queue ▸ smooth.free, aloof.queue ▸ smooth.measurable, aloof.fresh,
    fun step mem => smooth.delivers step (aloof.script.subset mem)⟩

/-! ### One publish -/

/-- A flush records no produced message. -/
theorem flushAndPurge_produced (timeout : Value) (s : World) :
    (exec (flushAndPurge timeout) s).2.produced = s.produced := by
  unfold flushAndPurge
  simp only [exec_bind, exec_get, exec_modify]
  obtain ⟨flushed, p⟩ := s.producer.flush
  cases flushed with
  | error f => rfl
  | ok remaining =>
    simp only [exec_ofResult, exec_record]
    split
    · simp only [exec_bind, exec_get, exec_record, exec_logError]
      split <;> simp [World.produced, Event.produced?]
    · simp [World.produced, Event.produced?]

/-- Waiting for a report while the messages in flight make the flush raise nothing
answers the message's own status, or -1 when it gives none; the world it leaves is
one a flush leaves, with no message produced. -/
theorem exec_awaitReport_settled {P : World → Prop} (m : Message) (d : Delivery)
    (timeout : Value) (settled : ∀ d' ∈ s.producer.inFlight, d'.flushFault? = none)
    (kept : ∀ s', Aloof s s' → s'.produced = s.produced → P s') :
    ∃ s', exec (awaitReport m d timeout) s = (.ok (d.status?.getD deliveryFailed), s') ∧
      P s' := by
  obtain ⟨s', flushed, aloof⟩ := exec_flushAndPurge_settled timeout s settled
  have produced := flushAndPurge_produced timeout s
  rw [flushed] at produced
  unfold awaitReport
  simp only [exec_bind, exec_attempt, flushed]
  exact ⟨s', rfl, kept s' aloof produced⟩

/-- A message with a wire form, on a producer that delivers it: the publish answers
success, and the message is produced once. -/
theorem exec_publishOne_delivered (smooth : Smooth s) {m : Message} {bytes : List UInt8}
    {key : Option (List UInt8)} (wire : m.wireForm = .ok (bytes, key))
    (headers : List (List Value)) (timeout : Value) :
    ∃ s', exec (publishOne m headers timeout) s = (.ok (.int 0), s') ∧ Aloof s s' ∧
      s'.produced = s.produced ++ [(m.topic, bytes)] := by
  unfold publishOne
  simp only [wire, exec_bind, exec_record, exec_get, exec_modify]
  obtain ⟨step, next, origin⟩ := Producer.next_spec s.producer
  have delivers : step = .deliver .ok := by
    rcases origin with rfl | mem
    · rfl
    · exact smooth.delivers step mem
  subst delivers
  unfold Producer.produce
  rw [next]
  simp only [Delivery.holdsLock, Bool.false_eq_true, ↓reduceIte]
  -- the message is alone in flight, and its own report says it was delivered
  refine exec_awaitReport_settled m .ok timeout ?_ fun s' aloof produced =>
    ⟨⟨aloof.queue, aloof.stop, aloof.metrics, aloof.idle,
      aloof.script.trans (List.drop_suffix 1 _), aloof.fresh⟩, ?_⟩
  · intro d' mem
    simp only [smooth.fresh, List.nil_append, List.mem_singleton] at mem
    rw [mem]
    rfl
  · rw [produced]
    simp [World.produced, Event.produced?]

/-- A message without a wire form fails to publish: the failure is logged and
nothing is produced. -/
theorem exec_publishOne_unwritable {m : Message} {f : Fault}
    (unwritable : m.wireForm = .error f) (headers : List (List Value))
    (timeout : Value) (s : World) :
    exec (publishOne m headers timeout) s = (.ok deliveryFailed,
      { s with log := s.log ++
        [LogLine.err ("Failed to produce message to topic=" ++ m.topic ++ ": " ++ f.message)] }) := by
  unfold publishOne
  rw [unwritable, exec_produceFailed]

namespace Worker

variable {w : Worker}

/-- A message without a wire form, under a policy without an attempt limit, is tried
again after every failure: the loop never ends normally, whatever its fuel. -/
theorem loop_stalls (unlimited : w.policy.maxAttempts = .none) {m : Message} {f : Fault}
    (unwritable : m.wireForm = .error f) (wait : Act Unit)
    (headers : List (List Value)) (rest : List Message) :
    ∀ fuel made s, (exec (w.loop wait fuel (.publishing m headers made rest)) s).1 ≠ .ok () := by
  intro fuel
  induction fuel with
  | zero =>
    intro made s
    simp [loop, Phase.isStopped]
  | succ fuel ih =>
    intro made s
    rw [exec_loop_succ w wait fuel rfl, exec_step_publishing,
      exec_publishOne_unwritable unwritable]
    have failed : deliveryFailed.isZero = false := rfl
    simp only [failed, Bool.false_eq_true, ↓reduceIte, RetryPolicy.shouldRetry_none unlimited]
    -- the delay, or the sleep for it, either fails, which ends the loop with its error, or
    -- leads to the next attempt
    cases w.policy.delay (.int ((made + 1 : Nat) : Int)) with
    | error e => simp
    | ok pause =>
      dsimp only
      cases w.clock.refusal? pause with
      | some e => simp
      | none => exact ih (made + 1) _

/-- A loop that ends normally passes through every run of steps from its start, and
ends normally from where that run ends, with the fuel left. -/
theorem Steps.ended {ph last : Phase} {moves : List Move} {t : World}
    (steps : Steps w s ph moves t last) (awake : ∀ mv ∈ moves, mv.waits = false)
    (wait : Act Unit) {fuel : Nat} (ended : (exec (w.loop wait fuel ph) s).1 = .ok ()) :
    (exec (w.loop wait (fuel - moves.length) last) t).1 = .ok () := by
  induction steps generalizing fuel with
  | done => exact ended
  | @step mv moves t last made going _ later =>
    have stepped : exec (w.step wait mv.phase) mv.before = (.ok mv.next, mv.after) := by
      rw [step_of_awake wait (awake mv (List.mem_cons_self ..))]
      exact made
    cases fuel with
    | zero => simp [Worker.loop, Phase.isStopped_eq_false going] at ended
    | succ fuel =>
      rw [exec_loop_succ w wait fuel (Phase.isStopped_eq_false going), stepped] at ended
      have rest := later (fun mv' mem => awake mv' (List.mem_cons_of_mem _ mem)) ended
      simpa only [List.length_cons, Nat.add_sub_add_right] using rest

/-! ### Publishing without a failure -/

/-- What a worker changes while it publishes messages that all go through at their
first attempt: it counts them as published and produces their wire forms in order;
nothing else it counts changes, the stop signal stays, and the world stays smooth. -/
structure Published (s t : World) (sent : List Message) : Prop where
  stop : t.stopSet = s.stopSet
  metrics : t.metrics = { s.metrics with published := s.metrics.published + sent.length }
  produced : t.produced = s.produced ++ sent.filterMap Message.wire?
  smooth : Smooth t

theorem Published.refl (smooth : Smooth s) : Published s s [] :=
  ⟨rfl, by simp, by simp, smooth⟩

theorem Published.trans {u t : World} {sent sent' : List Message} (first : Published s u sent)
    (second : Published u t sent') : Published s t (sent ++ sent') := by
  refine ⟨second.stop.trans first.stop, ?_, ?_, second.smooth⟩
  · rw [second.metrics, first.metrics]
    simp [Nat.add_assoc]
  · rw [second.produced, first.produced]
    simp

/-- A change that leaves the stop signal, the counters and the produced messages
alone, in a smooth world. -/
theorem Published.of_same {t : World} (smooth : Smooth t) (stop : t.stopSet = s.stopSet)
    (metrics : t.metrics = s.metrics) (produced : t.produced = s.produced) :
    Published s t [] :=
  ⟨stop, by simp [metrics], by simp [produced], smooth⟩

/-- A message with a wire form, in a smooth world: published at this attempt. -/
theorem delivered_step (smooth : Smooth s) {m : Message} {bytes : List UInt8}
    {key : Option (List UInt8)} (wire : m.wireForm = .ok (bytes, key))
    (headers : List (List Value)) (made : Nat)
    (rest : List Message) :
    ∃ t, Move.Made w ⟨s, .publishing m headers made rest, t, .handling rest⟩ ∧
      Published s t [m] ∧ t.queue = s.queue := by
  obtain ⟨s₁, sent, aloof, produced⟩ :=
    exec_publishOne_delivered smooth wire headers w.publishTimeout.toValue
  have smooth₁ := aloof.smooth smooth
  refine ⟨{ s₁ with metrics := { s₁.metrics with published := s₁.metrics.published + 1 } }, ?_,
    ⟨aloof.stop, ?_, ?_, ⟨smooth₁.free, smooth₁.measurable, smooth₁.fresh, smooth₁.delivers⟩⟩,
    aloof.queue⟩
  · unfold Move.Made
    rw [exec_step_publishing, sent]
    rfl
  · simp [aloof.metrics]
  · simp [World.produced, Message.wire?, wire] at produced ⊢
    exact produced

/-- A message a worker publishes at its first attempt: Data or Sensitive, with
headers that convert and a wire form. -/
def Ready (m : Message) : Prop :=
  (m.kind = .data ∨ m.kind = .sensitive) ∧ headersFree m = true ∧ ∃ form, m.wireForm = .ok form

/-- A batch that starts with ready messages: the worker publishes them one by one,
two steps each, and comes to the rest of its batch with the queue as it was. -/
theorem handling_ready_steps (smooth : Smooth s) (pre rest : List Message)
    (ready : ∀ m ∈ pre, Ready m) :
    ∃ moves t, w.Steps s (.handling (pre ++ rest)) moves t (.handling rest) ∧
      Published s t pre ∧ t.queue = s.queue ∧ Busy moves ∧ moves.length = 2 * pre.length := by
  induction pre generalizing s with
  | nil => exact ⟨[], s, .done _ _, .refl smooth, rfl, by simp [Busy], rfl⟩
  | cons m pre later =>
    obtain ⟨publishable, encodable, ⟨bytes, key⟩, wire⟩ := ready m (List.mem_cons_self ..)
    obtain ⟨headers, converted⟩ := clientHeaders_ok_iff.mpr encodable
    have taken : Move.Made w ⟨s, .handling (m :: (pre ++ rest)), s,
        .publishing m headers 0 (pre ++ rest)⟩ :=
      exec_step_publishable w _ s publishable _ converted
    obtain ⟨s₁, delivered, sent, queue₁⟩ :=
      delivered_step (w := w) smooth wire headers 0 (pre ++ rest)
    obtain ⟨moves, t, steps, sent', queue, busy, length⟩ :=
      later sent.smooth (fun m' mem => ready m' (List.mem_cons_of_mem _ mem))
    refine ⟨_, t, .step taken (by simp) (.step delivered (by simp) steps), sent.trans sent',
      queue.trans queue₁, Busy.cons rfl rfl (Busy.cons rfl rfl busy), ?_⟩
    simp only [List.length_cons, length]
    omega

/-- The worker drains full batches of ready messages from the front of the queue,
and then the batch that holds what follows them: it comes to the part of that batch
after the ready messages, having published every one of them. -/
theorem ready_batches_steps (smooth : Smooth s) {B : Nat} (size : w.settings.maxBatchSize = B)
    (positive : 0 < B) (pre tail : List Message) (ready : ∀ m ∈ pre, Ready m)
    (queued : s.queue.items = pre ++ tail) (filled : tail ≠ []) :
    ∃ moves t, w.Steps s .draining moves t (.handling (tail.take (B - pre.length % B))) ∧
      Published s t pre ∧ t.queue.items = tail.drop (B - pre.length % B) ∧
      (∀ mv ∈ moves, mv.waits = false) ∧ moves.length ≤ 4 * pre.length + 1 := by
  -- induction on the number of ready messages, one full batch at a time
  obtain ⟨n, sized⟩ : ∃ n, pre.length = n := ⟨_, rfl⟩
  induction n using Nat.strongRecOn generalizing pre s with
  | _ n later =>
    have nonempty : s.queue.items ≠ [] := by simp [queued, filled]
    have drained := draining_step (w := w) smooth.calm nonempty (size ▸ positive)
    rw [size] at drained
    let s₁ : World := { s with queue := { s.queue with items := s.queue.items.drop B } }
    have smooth₁ : Smooth s₁ := ⟨smooth.free, smooth.measurable, smooth.fresh, smooth.delivers⟩
    have taken : Published s s₁ [] := .of_same smooth₁ rfl rfl rfl
    by_cases full : B ≤ pre.length
    · -- a full batch of ready messages, then the rest of them
      have front : s.queue.items.take B = pre.take B ++ [] := by
        rw [queued, List.take_append_of_le_length full, List.append_nil]
      rw [front] at drained
      have ready₁ : ∀ m ∈ pre.take B, Ready m := fun m mem => ready m (List.mem_of_mem_take mem)
      obtain ⟨moves₁, u, handled, sent₁, queue₁, busy₁, length₁⟩ :=
        handling_ready_steps (w := w) smooth₁ (pre.take B) [] ready₁
      have emptied : Move.Made w ⟨u, .handling [], u, .draining⟩ := exec_step_handling_nil w _ u
      have queued' : u.queue.items = pre.drop B ++ tail := by
        rw [queue₁]
        simp [s₁, queued, List.drop_append_of_le_length full]
      have shorter : (pre.drop B).length < pre.length := by
        simp only [List.length_drop]
        omega
      obtain ⟨moves₂, t, steps, sent₂, items, awake, length₂⟩ :=
        later _ (sized ▸ shorter) sent₁.smooth (pre.drop B)
          (fun m mem => ready m (List.mem_of_mem_drop mem)) queued' rfl
      -- the batches after the first end where they would have from the start
      have cut : (pre.drop B).length % B = pre.length % B := by
        rw [List.length_drop]
        exact (Nat.mod_eq_sub_mod full).symm
      rw [cut] at steps items
      refine ⟨_, t, .step drained (by simp)
          (handled.append (.step emptied (by simp) steps)), ?_, items, ?_, ?_⟩
      · have whole := (taken.trans sent₁).trans sent₂
        rwa [List.nil_append, List.take_append_drop] at whole
      · intro mv mem
        simp only [List.mem_cons, List.mem_append] at mem
        rcases mem with rfl | here | rfl | after
        · rfl
        · exact (busy₁ mv here).2
        · rfl
        · exact awake mv after
      · simp only [List.length_cons, List.length_append, List.length_take] at length₁ length₂ ⊢
        simp only [List.length_drop] at length₂
        omega
    · -- the batch holds the last ready messages and the front of what follows them
      have within : pre.length % B = pre.length := Nat.mod_eq_of_lt (by omega)
      rw [within]
      have front : s.queue.items.take B = pre ++ tail.take (B - pre.length) := by
        rw [queued, List.take_append, List.take_of_length_le (by omega)]
      rw [front] at drained
      obtain ⟨moves, t, handled, sent, queue, busy, length⟩ :=
        handling_ready_steps (w := w) smooth₁ pre (tail.take (B - pre.length)) ready
      refine ⟨_, t, .step drained (by simp) handled, ?_, ?_, ?_, ?_⟩
      · have whole := taken.trans sent
        rwa [List.nil_append] at whole
      · have gone : pre.drop B = [] := List.drop_of_length_le (by omega)
        rw [queue]
        simp [s₁, queued, List.drop_append, gone]
      · intro mv mem
        rcases List.mem_cons.mp mem with rfl | later
        · rfl
        · exact (busy mv later).2
      · simp only [List.length_cons, length]
        omega

/-- On a queue of ready messages followed by one Shutdown message, a smooth worker
publishes them all, in order, and stops, leaving the Shutdown message's copy as the
whole queue. -/
theorem ready_queue_steps (smooth : Smooth s) (positive : 0 < w.settings.maxBatchSize)
    {work : List Message} {shutdown : Message} (queued : s.queue.items = work ++ [shutdown])
    (isShutdown : shutdown.kind = .shutdown) (ready : ∀ m ∈ work, Ready m) :
    ∃ moves t, w.Steps s .draining moves t .stopped ∧
      t.metrics = { s.metrics with published := s.metrics.published + work.length } ∧
      t.produced = s.produced ++ work.filterMap Message.wire? ∧ t.stopSet = true ∧
      t.queue.items = [shutdown] ∧ t.producer.inFlight = [] ∧ (∀ mv ∈ moves, mv.waits = false) ∧
      moves.length ≤ 4 * work.length + 3 := by
  have below := Nat.mod_lt work.length positive
  obtain ⟨moves, u, steps, sent, items, awake, length⟩ :=
    ready_batches_steps smooth rfl positive work [shutdown] ready queued (by simp)
  -- the Shutdown message is the last of the batch after the last full one
  have whole : [shutdown].take (w.settings.maxBatchSize - work.length % w.settings.maxBatchSize) =
      [shutdown] := List.take_of_length_le (by simp; omega)
  have gone : [shutdown].drop (w.settings.maxBatchSize - work.length % w.settings.maxBatchSize) =
      [] := List.drop_of_length_le (by simp; omega)
  rw [whole] at steps
  rw [gone] at items
  let stopping : World := { u with stopSet := true }
  have stop : Move.Made w ⟨u, .handling [shutdown], stopping, .requeueing shutdown []⟩ :=
    exec_step_shutdown w _ u isShutdown []
  have calm : Calm stopping := sent.smooth.calm.of_same rfl rfl rfl
  have requeue := exec_step_requeueing w (pure ()) stopping shutdown []
  rw [requeued_calm calm] at requeue
  simp only [List.isEmpty_nil, ↓reduceIte] at requeue
  refine ⟨_, _, steps.append (.step stop (by simp) (Steps.single requeue (by simp))),
    sent.metrics, sent.produced, rfl, by simp [stopping, items], sent.smooth.fresh, ?_, ?_⟩
  · intro mv mem
    simp only [List.mem_append, List.mem_cons, List.not_mem_nil, or_false] at mem
    rcases mem with earlier | rfl | rfl
    · exact awake mv earlier
    · rfl
    · rfl
  · simp only [List.length_append, List.length_cons, List.length_nil]
    omega

/-- A queue whose first message without a wire form comes after ready messages
only, and has headers that convert: a smooth worker comes to publish it. -/
theorem unwritable_reached (smooth : Smooth s) (positive : 0 < w.settings.maxBatchSize)
    {pre post : List Message} {m : Message} (queued : s.queue.items = pre ++ m :: post)
    (ready : ∀ x ∈ pre, Ready x) (publishable : m.kind = .data ∨ m.kind = .sensitive)
    {headers : List (List Value)} (converted : clientHeaders m = .ok headers) :
    ∃ moves t rest, w.Steps s .draining moves t (.publishing m headers 0 rest) ∧
      (∀ mv ∈ moves, mv.waits = false) := by
  obtain ⟨moves, u, steps, -, -, awake, -⟩ :=
    ready_batches_steps smooth rfl positive pre (m :: post) ready queued (by simp)
  -- the batch reaches past the ready messages, so the message heads what is left of it
  obtain ⟨k, left⟩ : ∃ k,
      w.settings.maxBatchSize - pre.length % w.settings.maxBatchSize = k + 1 := by
    have below := Nat.mod_lt pre.length positive
    exact ⟨_, (Nat.succ_pred_eq_of_pos (by omega)).symm⟩
  rw [left, List.take_succ_cons] at steps
  have taken : Move.Made w ⟨u, .handling (m :: post.take k), u,
      .publishing m headers 0 (post.take k)⟩ :=
    exec_step_publishable w _ u publishable _ converted
  refine ⟨_, _, _, steps.append (Steps.single taken (by simp)), ?_⟩
  intro mv mem
  simp only [List.mem_append, List.mem_cons, List.not_mem_nil, or_false] at mem
  rcases mem with earlier | rfl
  · exact awake mv earlier
  · rfl

/-- A run's budget covers six steps for every queued message and three more. -/
theorem budget_floor (w : Worker) (s : World) :
    (s.queue.items.length + 3) * 6 ≤ w.stepBudget s := by
  unfold stepBudget
  exact Nat.mul_le_mul (by omega) (by omega)

end Worker

/-- Messages not all with a wire form: a first one without, after ones with. -/
theorem exists_first_unwritable {work : List Message}
    (unwritable : ¬ ∀ m ∈ work, ∃ form, m.wireForm = .ok form) :
    ∃ pre m post f, work = pre ++ m :: post ∧
      (∀ x ∈ pre, ∃ form, x.wireForm = .ok form) ∧ m.wireForm = .error f := by
  induction work with
  | nil => simp at unwritable
  | cons x rest later =>
    cases wire : x.wireForm with
    | error f => exact ⟨[], x, rest, f, rfl, by simp, wire⟩
    | ok bytes =>
      have rest_unwritable : ¬ ∀ m ∈ rest, ∃ form, m.wireForm = .ok form := by
        intro writable
        apply unwritable
        intro m mem
        rcases List.mem_cons.mp mem with rfl | later
        · exact ⟨bytes, wire⟩
        · exact writable m later
      obtain ⟨pre, m, post, f, split, writable, fault⟩ := later rest_unwritable
      refine ⟨x :: pre, m, post, f, by rw [split]; rfl, ?_, fault⟩
      intro y mem
      rcases List.mem_cons.mp mem with rfl | earlier
      · exact ⟨bytes, wire⟩
      · exact writable y earlier

open Worker

section Runs

variable {w : Worker} {s : World} {work : List Message} {shutdown : Message}

/-- Every message ready, on a smooth queue that ends with a Shutdown message: the run
ends, with each message published once, in order. -/
theorem run_publishes_ready (positive : 0 < w.settings.maxBatchSize)
    (brokers : w.settings.hasBrokers = true) (smooth : Smooth s)
    (queued : s.queue.items = work ++ [shutdown]) (isShutdown : shutdown.kind = .shutdown)
    (ready : ∀ m ∈ work, Ready m) :
    (exec (w.run .works) s).1 = .ok () ∧
      (exec (w.run .works) s).2.metrics =
        { s.metrics with published := s.metrics.published + work.length } ∧
      (exec (w.run .works) s).2.produced = s.produced ++ work.filterMap Message.wire? ∧
      (exec (w.run .works) s).2.stopSet = true ∧
      (exec (w.run .works) s).2.queue.items = [shutdown] := by
  obtain ⟨settings, connects⟩ := exec_connect_works (s := s) brokers
  have smooth₁ : Smooth { s with trace := s.trace ++ [.producerCreated settings] } :=
    ⟨smooth.free, smooth.measurable, smooth.fresh, smooth.delivers⟩
  obtain ⟨moves, t, steps, metrics, produced, stopped, items, fresh, awake, length⟩ :=
    ready_queue_steps smooth₁ positive queued isShutdown ready
  have enough : moves.length ≤ w.stepBudget { s with trace := s.trace ++ [.producerCreated settings] } := by
    have floor := budget_floor w { s with trace := s.trace ++ [.producerCreated settings] }
    simp only [queued, List.length_append, List.length_cons, List.length_nil] at floor
    omega
  obtain ⟨-, looped⟩ := steps.loop awake w.idleWait enough
  -- neither the producer's creation nor the final flush is a produced message
  have created : ({ s with trace := s.trace ++ [.producerCreated settings] } : World).produced =
      s.produced := by
    simp [World.produced, Event.produced?]
  have flushed : (w.closed t t.producer.backlog.length).produced = t.produced := by
    simp [closed, World.produced, Event.produced?]
  rw [exec_run_fresh connects (by rw [looped]; exact fresh), looped]
  refine ⟨rfl, metrics, ?_, stopped, items⟩
  rw [← created, ← produced]
  exact flushed

/-- A message without a wire form, behind messages with one, on a smooth queue of
messages whose headers convert, and under a policy without an attempt limit: the run
never ends normally. -/
theorem run_stalls_on_unwritable (positive : 0 < w.settings.maxBatchSize)
    (brokers : w.settings.hasBrokers = true) (unlimited : w.policy.maxAttempts = .none)
    (smooth : Smooth s) (queued : s.queue.items = work ++ [shutdown])
    (publishable : ∀ m ∈ work, m.kind = .data ∨ m.kind = .sensitive)
    (encodable : ∀ m ∈ work, headersFree m = true)
    (unwritable : ¬ ∀ m ∈ work, ∃ form, m.wireForm = .ok form) :
    (exec (w.run .works) s).1 ≠ .ok () := by
  obtain ⟨pre, m, post, f, split, writable, fault⟩ := exists_first_unwritable unwritable
  obtain ⟨settings, connects⟩ := exec_connect_works (s := s) brokers
  have smooth₁ : Smooth { s with trace := s.trace ++ [.producerCreated settings] } :=
    ⟨smooth.free, smooth.measurable, smooth.fresh, smooth.delivers⟩
  have within : ∀ x ∈ pre, x ∈ work := fun x mem => by
    rw [split]
    exact List.mem_append_left _ mem
  have ready : ∀ x ∈ pre, Ready x := fun x mem =>
    ⟨publishable x (within x mem), encodable x (within x mem), writable x mem⟩
  have queued' : s.queue.items = pre ++ m :: (post ++ [shutdown]) := by simp [queued, split]
  obtain ⟨headers, converted⟩ := clientHeaders_ok_iff.mpr (encodable m (by simp [split]))
  obtain ⟨moves, t, rest, steps, awake⟩ := unwritable_reached (w := w) smooth₁ positive
    queued' ready (publishable m (by simp [split])) converted
  rw [exec_run_created connects]
  intro ended
  -- a final flush that raises ends the run with its error; otherwise the loop ended, and
  -- so it would have from the message too, which it never does
  split at ended
  · cases ended
  · exact loop_stalls unlimited fault w.idleWait _ rest _ 0 t
      (steps.ended awake w.idleWait ended)

end Runs

/-- Every message with a wire form is published, and a run ends only then. A worker
whose policy has no attempt limit, alone on a smooth queue of Data and Sensitive
messages whose headers convert, followed by one Shutdown message, with a producer that
delivers every message: its run ends exactly when every message has a wire form, its
payload written and its key free of lone surrogates, and then it has published each
message once, in queue order, set the stop signal and left only the Shutdown message's
copy on the queue. -/
theorem worker_publishes_every_wire_ready_message {w : Worker} {s : World}
    {work : List Message} {shutdown : Message} (positive : 0 < w.settings.maxBatchSize)
    (brokers : w.settings.hasBrokers = true) (unlimited : w.policy.maxAttempts = .none)
    (smooth : Smooth s) (queued : s.queue.items = work ++ [shutdown])
    (isShutdown : shutdown.kind = .shutdown)
    (publishable : ∀ m ∈ work, m.kind = .data ∨ m.kind = .sensitive)
    (encodable : ∀ m ∈ work, headersFree m = true) :
    let ran := exec (w.run .works) s
    (ran.1 = .ok () ↔ ∀ m ∈ work, (∃ bytes, m.payload.toValue.wireBytes = .ok bytes) ∧
        Text.surrogateFree m.key = true) ∧
      (ran.1 = .ok () →
        ran.2.metrics = { s.metrics with published := s.metrics.published + work.length } ∧
        ran.2.produced = s.produced ++ work.filterMap Message.wire? ∧
        ran.2.stopSet = true ∧ ran.2.queue.items = [shutdown]) := by
  intro ran
  -- a wire form is a written payload and an encoded key
  have forms : (∀ m ∈ work, ∃ form, m.wireForm = .ok form) ↔
      ∀ m ∈ work, (∃ bytes, m.payload.toValue.wireBytes = .ok bytes) ∧
        Text.surrogateFree m.key = true :=
    forall₂_congr fun m _ => Message.wireForm_ok_iff
  have writable_of_ended : ran.1 = .ok () → ∀ m ∈ work, ∃ form, m.wireForm = .ok form := by
    intro ended
    apply Classical.byContradiction
    intro unwritable
    exact run_stalls_on_unwritable positive brokers unlimited smooth queued publishable encodable
      unwritable ended
  have delivered (writable : ∀ m ∈ work, ∃ form, m.wireForm = .ok form) :=
    run_publishes_ready (w := w) positive brokers smooth queued isShutdown
      fun m mem => ⟨publishable m mem, encodable m mem, writable m mem⟩
  rw [← forms]
  exact ⟨⟨writable_of_ended, fun writable => (delivered writable).1⟩,
    fun ended => (delivered (writable_of_ended ended)).2⟩

/-- A Data message with a text payload and a Shutdown message, on a worker with its
pool's default retry policy: the run ends, with the message published. -/
theorem text_message_published :
    let settings : Settings := { brokers := ["localhost:9092"] }
    let w : Worker := { threadNum := .int 0, label := "ktp-tid-1", settings,
                        policy := RetryPolicy.ofSettings settings, publishTimeout := .int 6 }
    let hello : Message := { kind := .data, topic := "testing", payload := .text "hello" }
    let shutdown : Message := { kind := .shutdown }
    let s : World := {
      queue := {
        lockTimeout := 10.0
        waitOverflows := false
        items := [hello, shutdown] } }
    (0 < w.settings.maxBatchSize ∧ w.settings.hasBrokers = true ∧
      w.policy.maxAttempts = .none ∧ Smooth s ∧ s.queue.items = [hello] ++ [shutdown] ∧
      shutdown.kind = .shutdown ∧ (∀ m ∈ [hello], m.kind = .data ∨ m.kind = .sensitive) ∧
      (∀ m ∈ [hello], Worker.headersFree m = true)) ∧
    (exec (w.run .works) s).1 = .ok () ∧ (exec (w.run .works) s).2.metrics.published = 1 := by
  intro settings w hello shutdown s
  have smooth : Smooth s := ⟨rfl, rfl, rfl, by simp [s]⟩
  have encodable : ∀ m ∈ [hello], Worker.headersFree m = true := by
    simp [hello, Worker.headersFree]
  have published := worker_publishes_every_wire_ready_message (w := w) (by decide) rfl rfl smooth
    (show s.queue.items = [hello] ++ [shutdown] from rfl) rfl (by simp [hello]) encodable
  have ended : (exec (w.run .works) s).1 = .ok () :=
    published.1.mpr (by simp [hello]; exact ⟨_, rfl⟩)
  refine ⟨⟨by decide, rfl, rfl, smooth, rfl, rfl, by simp [hello], encodable⟩, ended, ?_⟩
  rw [(published.2 ended).1]
  rfl

/-- A Data message whose payload holds an integer beyond 64 bits, then a Shutdown
message, on a worker with the default backoff and no attempt limit: its run never
ends normally, and the message is never published. -/
theorem unwritable_payload_blocks_worker :
    let settings : Settings := {
      brokers := ["localhost:9092"]
      logLabel := .str "test"
      topics := ["testing"] }
    let w : Worker := { threadNum := .int 0, label := "test-tid-1", settings,
                        policy := RetryPolicy.ofSettings settings, publishTimeout := .int 6 }
    let big : Message :=
      { kind := .data, topic := "testing", key := "k", payload := .dict [("a", .int 18446744073709551616)] }
    let shutdown : Message := { kind := .shutdown }
    let s : World := {
      queue := {
        lockTimeout := 10.0
        waitOverflows := false
        items := [big, shutdown] } }
    Smooth s ∧ w.policy.maxAttempts = .none ∧ (exec (w.run .works) s).1 ≠ .ok () := by
  intro settings w big shutdown s
  have smooth : Smooth s := ⟨rfl, rfl, rfl, by simp [s]⟩
  -- the payload's integer has no 64-bit form
  have fault : big.wireForm = .error Value.intRangeFault := rfl
  have unwritable : ¬ ∀ m ∈ [big], ∃ form, m.wireForm = .ok form := by
    intro writable
    obtain ⟨form, wire⟩ := writable big (by simp)
    rw [fault] at wire
    cases wire
  exact ⟨smooth, rfl, @run_stalls_on_unwritable w s [big] shutdown (by decide) rfl rfl smooth
    (show s.queue.items = [big] ++ [shutdown] from rfl) (by simp [big])
    (by simp [big, Worker.headersFree]) unwritable⟩

end PublishPool
