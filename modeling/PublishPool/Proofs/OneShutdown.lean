import PublishPool.Proofs.Conservation
import PublishPool.Proofs.Encoding

/-!
One Shutdown message stops the worker that drains it.

A worker alone on a queue, with nothing to interrupt it (`Calm`: the lock free and
measurable, a producer that neither raises out of a publish nor takes the lock)
and a policy that bounds its attempts (`Worker.Limited`), drains the queue batch
by batch up to the batch that holds the first Shutdown message, publishes or
drops what comes before it, and stops there: it sets the stop signal, puts the
message's copy back behind what is left of the queue, and drops the rest of its
batch as Shutdown remainder.

`Worker.Steps` is a run of the worker's own steps up to its stop, with nothing
between them; `Worker.trail` lists the steps a loop takes. The batch that holds
the Shutdown message must not hold a broker-detail message before it: such a
message drops the rest of its batch, the Shutdown message with it
(`broker_details_drop_batch_shutdown`).

Main statement: `one_shutdown_stops_worker`.
-/

namespace PublishPool

open Act

/-! ### A calm world -/

/-- A producer step that neither raises out of a publish nor takes the queue lock: a
failure of `produce`, or of the flush while the message is in flight, is one that
publishing catches. -/
def Producer.Step.Tame : Producer.Step → Prop
  | .failWith f => f.expected = true
  | .deliver d => d.holdsLock = false ∧ ∀ f, d.flushFault? = some f → f.caughtOnPublish = true

/-- A world where nothing interrupts a worker: the queue lock is free and measurable,
the producer is fresh, with nothing in flight, and every step left in its script is
tame. -/
structure Calm (s : World) : Prop where
  free : s.queue.held = false
  measurable : s.queue.waitOverflows = false
  fresh : s.producer.inFlight = []
  tame : ∀ step ∈ s.producer.script, step.Tame

theorem WorkQueue.acquire_taken {q : WorkQueue} (free : q.held = false)
    (measurable : q.waitOverflows = false) : q.acquire = .taken := by
  simp [WorkQueue.acquire, free, measurable]

variable {s : World}

/-- In a calm world a drain with a bound takes that many messages from the front. -/
theorem exec_drain_calm (calm : Calm s) (bound : Nat) :
    exec (drain (.int bound)) s =
      (.ok (s.queue.items.take bound),
        { s with queue := { s.queue with items := s.queue.items.drop bound } }) := by
  have taken := WorkQueue.acquire_taken calm.free calm.measurable
  have front : WorkQueue.frontCount (bound : Int) s.queue.items.length =
      Nat.min bound s.queue.items.length := by
    simp [WorkQueue.frontCount]
  rw [exec_drain]
  simp only [WorkQueue.drain, taken, WorkQueue.sliceBound, front, bind, Except.bind, pure,
    Except.pure]
  rw [← List.take_eq_take_min, ← List.drop_eq_drop_min]

/-- In a calm world an enqueue appends its batch. -/
theorem WorkQueue.enqueue_calm (calm : Calm s) {msgs : List Message} (filled : msgs ≠ []) :
    s.queue.enqueue msgs =
      .ok ((s.queue.items ++ msgs).length, { s.queue with items := s.queue.items ++ msgs }) := by
  have taken := WorkQueue.acquire_taken calm.free calm.measurable
  have nonempty : msgs.isEmpty = false := by simpa using filled
  simp [WorkQueue.enqueue, taken, nonempty]

/-- Worlds that share the lock and the producer are calm together. -/
theorem Calm.of_same {s' : World} (calm : Calm s) (held : s'.queue.held = s.queue.held)
    (measurable : s'.queue.waitOverflows = s.queue.waitOverflows)
    (producer : s'.producer = s.producer) : Calm s' :=
  ⟨held ▸ calm.free, measurable ▸ calm.measurable, producer ▸ calm.fresh,
    producer ▸ calm.tame⟩

/-! ### Publishing in a calm world -/

/-- A change that leaves the queue, the stop signal, the counters and the idle steps as
they were, uses up the producer's script from its front only, and leaves nothing in
flight. -/
structure Aloof (s s' : World) : Prop where
  queue : s'.queue = s.queue
  stop : s'.stopSet = s.stopSet
  metrics : s'.metrics = s.metrics
  idle : s'.idle = s.idle
  script : s'.producer.script <:+ s.producer.script
  fresh : s'.producer.inFlight = []

theorem Aloof.calm {s' : World} (calm : Calm s) (aloof : Aloof s s') : Calm s' :=
  ⟨aloof.queue ▸ calm.free, aloof.queue ▸ calm.measurable, aloof.fresh,
    fun step mem => calm.tame step (aloof.script.subset mem)⟩

/-- A flush leaves nothing in flight. -/
@[simp] theorem Producer.flush_inFlight (p : Producer) : p.flush.2.inFlight = [] := by
  unfold Producer.flush
  split <;> rfl

@[simp] theorem Producer.flush_script (p : Producer) : p.flush.2.script = p.script := by
  unfold Producer.flush
  split <;> rfl

/-- A flush raises only an error that one of the messages in flight makes it raise. -/
theorem Producer.flush_fault {p : Producer} {f : Fault} (raised : p.flush.1 = .error f) :
    ∃ d ∈ p.inFlight, d.flushFault? = some f := by
  unfold Producer.flush at raised
  split at raised
  · rename_i found
    cases raised
    exact List.exists_of_findSome?_eq_some found
  · cases raised

/-- A flush with nothing in flight answers the undelivered messages and changes nothing. -/
theorem Producer.flush_fresh {p : Producer} (fresh : p.inFlight = []) :
    p.flush = (.ok p.backlog.length, p) := by
  obtain ⟨script, inFlight, backlog⟩ := p
  subst fresh
  simp [Producer.flush]

theorem Producer.purge_script {p p' : Producer} (purged : p.purge = .ok p') :
    p'.script = p.script := by
  unfold Producer.purge at purged
  split at purged
  · cases purged
  · cases purged
    rfl

theorem Producer.purge_inFlight {p p' : Producer} (purged : p.purge = .ok p') :
    p'.inFlight = p.inFlight := by
  unfold Producer.purge at purged
  split at purged
  · cases purged
  · cases purged
    rfl

/-- Flushing and purging touch only the producer's deliveries, the trace and the log,
and leave nothing in flight; an error they raise is one a message in flight made the
flush raise. -/
theorem exec_flushAndPurge (timeout : Value) (s : World) :
    ∃ r s', exec (flushAndPurge timeout) s = (r, s') ∧ Aloof s s' ∧
      ∀ f, r = .error f → ∃ d ∈ s.producer.inFlight, d.flushFault? = some f := by
  unfold flushAndPurge
  simp only [exec_bind, exec_get, exec_modify]
  obtain ⟨flushed, raised⟩ : ∃ flushed, s.producer.flush.1 = flushed := ⟨_, rfl⟩
  have kept : Aloof s { s with producer := s.producer.flush.2 } :=
    ⟨rfl, rfl, rfl, rfl, by simp, by simp⟩
  rw [show s.producer.flush = (flushed, s.producer.flush.2) from Prod.ext raised rfl]
  cases flushed with
  | error f =>
    refine ⟨_, _, rfl, kept, fun f' same => ?_⟩
    cases same
    exact Producer.flush_fault raised
  | ok remaining =>
    simp only [exec_ofResult, exec_record]
    split
    · simp only [exec_bind, exec_get, exec_record, exec_logError]
      split
      · rename_i p purged
        refine ⟨_, _, rfl, ⟨rfl, rfl, rfl, rfl, ?_, ?_⟩, by simp⟩
        · rw [Producer.purge_script purged]
          exact kept.script
        · rw [Producer.purge_inFlight purged]
          exact kept.fresh
      · exact ⟨_, _, rfl, ⟨rfl, rfl, rfl, rfl, kept.script, kept.fresh⟩, by simp⟩
    · exact ⟨_, _, rfl, ⟨rfl, rfl, rfl, rfl, kept.script, kept.fresh⟩, by simp⟩

/-- A flush whose messages in flight make it raise nothing succeeds. -/
theorem exec_flushAndPurge_settled (timeout : Value) (s : World)
    (settled : ∀ d ∈ s.producer.inFlight, d.flushFault? = none) :
    ∃ s', exec (flushAndPurge timeout) s = (.ok (), s') ∧ Aloof s s' := by
  obtain ⟨r, s', flushed, aloof, raised⟩ := exec_flushAndPurge timeout s
  cases r with
  | ok u => exact ⟨s', flushed, aloof⟩
  | error f =>
    obtain ⟨d, mem, faulted⟩ := raised f rfl
    rw [settled d mem] at faulted
    cases faulted

/-- A failed publish only logs. -/
theorem exec_produceFailed (m : Message) (text : String) (s : World) :
    exec (produceFailed m text) s = (.ok deliveryFailed, { s with log := s.log ++
      [LogLine.err ("Failed to produce message to topic=" ++ m.topic ++ ": " ++ text)] }) := by
  simp [produceFailed, exec_map]

/-- Waiting for a report answers a status when every error the messages in flight can
make the flush raise is one publishing catches; the world it leaves is one a flush
leaves, so it has every property `kept` carries over from such a world. -/
theorem exec_awaitReport_answers {P : World → Prop} (m : Message) (d : Delivery)
    (timeout : Value)
    (caught : ∀ d' ∈ s.producer.inFlight, ∀ f, d'.flushFault? = some f →
      f.caughtOnPublish = true)
    (kept : ∀ s', Aloof s s' → P s') :
    ∃ status s', exec (awaitReport m d timeout) s = (.ok status, s') ∧ P s' := by
  obtain ⟨r, s₁, flushed, aloof, raised⟩ := exec_flushAndPurge timeout s
  unfold awaitReport
  simp only [exec_bind, exec_attempt, flushed]
  cases r with
  | ok u => exact ⟨_, _, rfl, kept s₁ aloof⟩
  | error f =>
    -- the flush raised what a message in flight made it raise, which is caught
    obtain ⟨d', mem, faulted⟩ := raised f rfl
    simp only [caught d' mem f faulted, ↓reduceIte, exec_produceFailed]
    exact ⟨_, _, rfl, kept _ ⟨aloof.queue, aloof.stop, aloof.metrics, aloof.idle, aloof.script,
      aloof.fresh⟩⟩

/-- The step a producer takes: the head of its script, or a delivery once the
script is used up. -/
theorem Producer.next_spec (p : Producer) :
    ∃ step, p.next = (step, { p with script := p.script.drop 1 }) ∧
      (step = .deliver .ok ∨ step ∈ p.script) := by
  obtain ⟨script, inFlight, backlog⟩ := p
  cases script with
  | nil => exact ⟨_, rfl, .inl rfl⟩
  | cons step rest => exact ⟨step, rfl, .inr (List.mem_cons_self ..)⟩

/-- In a calm world a publish answers a status and changes nothing a worker's
batch depends on: it uses up at most one tame step of the script. -/
theorem exec_publishOne_calm (calm : Calm s) (m : Message) (headers : List (List Value))
    (timeout : Value) :
    ∃ status s', exec (publishOne m headers timeout) s = (.ok status, s') ∧ Aloof s s' := by
  unfold publishOne
  cases m.wireForm with
  | error f =>
    rw [exec_produceFailed]
    exact ⟨_, _, rfl, rfl, rfl, rfl, rfl, List.suffix_refl _, calm.fresh⟩
  | ok written =>
    obtain ⟨value, key⟩ := written
    simp only [exec_bind, exec_record, exec_get, exec_modify]
    obtain ⟨step, next, origin⟩ := Producer.next_spec s.producer
    have tame : step.Tame := by
      rcases origin with rfl | mem
      · exact ⟨rfl, fun f none => by cases none⟩
      · exact calm.tame step mem
    unfold Producer.produce
    rw [next]
    cases step with
    | failWith f =>
      -- a failure the publish expects is logged and answered with a status
      simp only [Producer.Step.Tame] at tame
      simp only [tame, ↓reduceIte, exec_produceFailed]
      exact ⟨_, _, rfl, rfl, rfl, rfl, rfl, List.drop_suffix 1 _, calm.fresh⟩
    | deliver d =>
      obtain ⟨unlocked, caught⟩ := tame
      simp only [unlocked, Bool.false_eq_true, ↓reduceIte]
      -- the message is the only one in flight, and what it makes the flush raise is caught
      refine exec_awaitReport_answers m d timeout ?_ fun s' aloof =>
        ⟨aloof.queue, aloof.stop, aloof.metrics, aloof.idle,
          aloof.script.trans (List.drop_suffix 1 _), aloof.fresh⟩
      intro d' mem
      simp only [calm.fresh, List.nil_append, List.mem_singleton] at mem
      exact mem ▸ caught

/-! ### Runs up to the stop -/

namespace Worker

variable {w : Worker} {s t : World} {ph : Phase} {moves : List Move}

/-- The worker's own steps up to its stop, with nothing between them. -/
inductive Steps (w : Worker) : World → Phase → List Move → World → Phase → Prop
  | done (s : World) (ph : Phase) : Steps w s ph [] s ph
  | step {mv : Move} {moves : List Move} {t : World} {last : Phase} :
      mv.Made w → mv.phase ≠ .stopped → Steps w mv.after mv.next moves t last →
      Steps w mv.before mv.phase (mv :: moves) t last

theorem Steps.append {u t : World} {mid last : Phase} {moves' : List Move}
    (first : Steps w s ph moves u mid) (second : Steps w u mid moves' t last) :
    Steps w s ph (moves ++ moves') t last := by
  induction first with
  | done => exact second
  | step made going _ later => exact .step made going (later second)

theorem Steps.single {s' : World} {next : Phase} (made : Move.Made w ⟨s, ph, s', next⟩)
    (going : ph ≠ .stopped) : Steps w s ph [⟨s, ph, s', next⟩] s' next :=
  .step made going (.done _ _)

/-- Whether a move drains the queue. -/
def Move.drains (mv : Move) : Bool :=
  match mv.phase with
  | .draining => true
  | _ => false

/-- Whether a move waits idle. -/
def Move.waits (mv : Move) : Bool :=
  match mv.phase with
  | .idle => true
  | _ => false

/-- The moves a loop makes, in order, each with the world and phase before and
after it. -/
def trail (w : Worker) (wait : Act Unit) : Nat → Phase → World → List Move
  | 0, _, _ => []
  | fuel + 1, ph, s =>
    if ph.isStopped then [] else
      match exec (w.step wait ph) s with
      | (.ok next, s') => ⟨s, ph, s', next⟩ :: trail w wait fuel next s'
      | (.error _, _) => []

theorem Phase.isStopped_eq_false {ph : Phase} (going : ph ≠ .stopped) : ph.isStopped = false := by
  cases ph <;> simp_all [Phase.isStopped]

theorem step_of_awake (wait : Act Unit) {mv : Move} (awake : mv.waits = false) :
    w.step wait mv.phase = w.step (pure ()) mv.phase := by
  obtain ⟨s, ph, s', next⟩ := mv
  cases ph with
  | idle => simp [Move.waits] at awake
  | handling work => cases work <;> rfl
  | _ => rfl

/-- A loop with fuel enough for a run of steps that never waits takes exactly those
steps and ends where they end. -/
theorem Steps.loop (steps : Steps w s ph moves t .stopped)
    (awake : ∀ mv ∈ moves, mv.waits = false) (wait : Act Unit) {fuel : Nat}
    (enough : moves.length ≤ fuel) :
    w.trail wait fuel ph s = moves ∧ exec (w.loop wait fuel ph) s = (.ok (), t) := by
  generalize stops : Phase.stopped = last at steps
  induction steps generalizing fuel with
  | done s ph =>
    subst stops
    cases fuel <;> exact ⟨rfl, rfl⟩
  | @step mv moves t last made going _ later =>
    obtain ⟨fuel, rfl⟩ : ∃ f, fuel = f + 1 := ⟨fuel - 1, by simp at enough; omega⟩
    have stepped : exec (w.step wait mv.phase) mv.before = (.ok mv.next, mv.after) := by
      rw [step_of_awake wait (awake mv (List.mem_cons_self ..))]
      exact made
    obtain ⟨trailed, looped⟩ := later (fun mv' mem => awake mv' (List.mem_cons_of_mem _ mem))
      (by simp at enough; omega) stops
    constructor
    · simp [trail, Phase.isStopped_eq_false going, stepped, trailed]
    · rw [exec_loop_succ w wait fuel (Phase.isStopped_eq_false going), stepped]
      exact looped

end Worker

/-! ### Steps in a calm world -/

namespace Worker

variable {w : Worker} {s : World} {n : Int}

/-- A policy that bounds a message's attempts by the integer `n`, with a delay
ready after each failed attempt it retries, one the worker's clock can sleep for.
The delay is computed on floats, which proofs cannot evaluate, so that it answers is
assumed here. -/
structure Limited (w : Worker) (n : Int) : Prop where
  limit : w.policy.maxAttempts = .int n
  delays : ∀ a : Nat, 0 < a → (a : Int) < n →
    ∃ pause, w.policy.delay (.int a) = .ok pause ∧ w.clock.refusal? pause = none

theorem Limited.shouldRetry (limited : w.Limited n) (a : Int) :
    w.policy.shouldRetry (.int a) = .ok (decide (a < n)) :=
  RetryPolicy.shouldRetry_int limited.limit a

theorem Limited.attemptLimit (limited : w.Limited n) : w.attemptLimit = n.toNat := by
  simp [Worker.attemptLimit, limited.limit, Num.ofValue?]

/-- What a worker leaves alone while it works through a batch without a Shutdown
message: the queue, the stop signal and the count of Shutdown remainders; and the
world stays calm. -/
structure Kept (s t : World) : Prop where
  queue : t.queue = s.queue
  stop : t.stopSet = s.stopSet
  remainder : t.metrics.droppedFor .shutdownRemainder = s.metrics.droppedFor .shutdownRemainder
  calm : Calm t

theorem Kept.refl (calm : Calm s) : Kept s s := ⟨rfl, rfl, rfl, calm⟩

theorem Kept.trans {u t : World} (first : Kept s u) (second : Kept u t) : Kept s t :=
  ⟨second.queue.trans first.queue, second.stop.trans first.stop,
    second.remainder.trans first.remainder, second.calm⟩

/-- A drop for another reason than a Shutdown remainder keeps what a batch keeps. -/
theorem Kept.dropped (calm : Calm s) {reason : DropReason}
    (other : reason ≠ .shutdownRemainder) (count : Nat) : Kept s (w.dropped s reason count) :=
  ⟨rfl, rfl, by simp [Worker.dropped, Metrics.droppedFor_recordDrop, Ne.symm other],
    calm.of_same rfl rfl rfl⟩

/-- An attempt to publish in a calm world: delivered, or given up, and the batch goes
on; or retried, when the policy allows another attempt. -/
theorem publishing_step (calm : Calm s) (limited : w.Limited n) (m : Message)
    (headers : List (List Value)) (made : Nat) (rest : List Message) :
    ∃ next s', exec (w.step (pure ()) (.publishing m headers made rest)) s = (.ok next, s') ∧
      Kept s s' ∧ (next = .handling rest ∨
        ((made + 1 : Nat) : Int) < n ∧ next = .publishing m headers (made + 1) rest) := by
  obtain ⟨status, s₁, published, aloof⟩ :=
    exec_publishOne_calm calm m headers w.publishTimeout.toValue
  have kept : Kept s s₁ :=
    ⟨aloof.queue, aloof.stop, by simp [Metrics.droppedFor, aloof.metrics], aloof.calm calm⟩
  rw [exec_step_publishing, published]
  dsimp only
  by_cases zero : status.isZero
  · rw [if_pos zero]
    exact ⟨_, _, rfl, kept.trans ⟨rfl, rfl, rfl, kept.calm.of_same rfl rfl rfl⟩, .inl rfl⟩
  · rw [if_neg zero, limited.shouldRetry]
    by_cases again : ((made + 1 : Nat) : Int) < n
    · -- another attempt follows the policy's delay
      obtain ⟨pause, delayed, takes⟩ := limited.delays (made + 1) (by omega) again
      rw [decide_eq_true again]
      dsimp only
      rw [delayed]
      dsimp only
      rw [takes]
      refine ⟨_, _, rfl, kept.trans ⟨rfl, rfl, ?_, kept.calm.of_same rfl rfl rfl⟩,
        .inr ⟨again, rfl⟩⟩
      simp [failedAttempt, Metrics.droppedFor]
    · -- no attempt is left: the message is dropped as such
      rw [decide_eq_false again]
      refine ⟨_, _, rfl, kept.trans ⟨rfl, rfl, ?_, kept.calm.of_same rfl rfl rfl⟩, .inl rfl⟩
      simp only [gaveUp, Worker.dropped, Metrics.droppedFor_recordDrop]
      simp [failedAttempt, Metrics.droppedFor]

/-- Moves that neither drain nor wait: the work on one batch. -/
def Busy (moves : List Move) : Prop := ∀ mv ∈ moves, mv.drains = false ∧ mv.waits = false

theorem Busy.cons {mv : Move} {moves : List Move} (drains : mv.drains = false)
    (waits : mv.waits = false) (rest : Busy moves) : Busy (mv :: moves) := by
  intro mv' mem
  rcases List.mem_cons.mp mem with rfl | later
  · exact ⟨drains, waits⟩
  · exact rest mv' later

theorem Busy.drains {moves : List Move} (busy : Busy moves) : moves.countP Move.drains = 0 :=
  List.countP_eq_zero.mpr fun mv mem => by simp [(busy mv mem).1]

theorem Busy.append {moves moves' : List Move} (first : Busy moves) (second : Busy moves') :
    Busy (moves ++ moves') := by
  intro mv mem
  rcases List.mem_append.mp mem with here | later
  · exact first mv here
  · exact second mv later

/-- Publishing one message in a calm world ends, after no more attempts than the
policy allows and one, and the batch goes on. -/
theorem publishing_steps (calm : Calm s) (limited : w.Limited n) (m : Message)
    (headers : List (List Value)) (rest : List Message) (made : Nat) :
    ∃ moves t, w.Steps s (.publishing m headers made rest) moves t (.handling rest) ∧
      Kept s t ∧ Busy moves ∧ moves.length ≤ n.toNat - made + 1 := by
  -- induction on the attempts the policy still allows
  suffices bounded : ∀ k made s, Calm s → n.toNat - made ≤ k →
      ∃ moves t, w.Steps s (.publishing m headers made rest) moves t (.handling rest) ∧
        Kept s t ∧ Busy moves ∧ moves.length ≤ n.toNat - made + 1 from
    bounded _ made s calm (Nat.le_refl _)
  intro k
  induction k with
  | zero =>
    intro made s calm spent
    obtain ⟨next, s', stepped, kept, outcome⟩ :=
      publishing_step calm limited m headers made rest
    rcases outcome with rfl | ⟨again, _⟩
    · exact ⟨_, _, Steps.single stepped (by simp), kept, Busy.cons rfl rfl (by simp [Busy]),
        by simp⟩
    · have : made + 1 < n.toNat := Int.lt_toNat.mpr again
      omega
  | succ k later =>
    intro made s calm spent
    obtain ⟨next, s', stepped, kept, outcome⟩ :=
      publishing_step calm limited m headers made rest
    rcases outcome with rfl | ⟨again, rfl⟩
    · exact ⟨_, _, Steps.single stepped (by simp), kept, Busy.cons rfl rfl (by simp [Busy]),
        by simp⟩
    · -- another attempt: the policy allows one fewer after it
      have allowed : made + 1 < n.toNat := Int.lt_toNat.mpr again
      obtain ⟨moves, t, steps, kept', busy, length⟩ :=
        later (made + 1) s' kept.calm (by omega)
      have moved : Move.Made w ⟨s, .publishing m headers made rest, s',
          .publishing m headers (made + 1) rest⟩ := stepped
      refine ⟨_, t, .step moved (by simp) steps, kept.trans kept', Busy.cons rfl rfl busy, ?_⟩
      simp only [List.length_cons]
      omega

/-- A logged error line keeps what a batch keeps. -/
theorem Kept.logged (calm : Calm s) (log : List LogLine) : Kept s { s with log := log } :=
  ⟨rfl, rfl, rfl, calm.of_same rfl rfl rfl⟩

/-- A batch without a Shutdown message, whose messages' headers all convert, worked
through in a calm world: each message is published or dropped, and the worker drains
again. -/
theorem handling_steps (calm : Calm s) (limited : w.Limited n) (work : List Message)
    (clean : ∀ m ∈ work, m.kind ≠ .shutdown) (encodable : ∀ m ∈ work, headersFree m = true) :
    ∃ moves t, w.Steps s (.handling work) moves t .draining ∧ Kept s t ∧ Busy moves ∧
      moves.length ≤ work.length * (n.toNat + 2) + 1 := by
  induction work generalizing s with
  | nil =>
    have stepped : Move.Made w ⟨s, .handling [], s, .draining⟩ := exec_step_handling_nil w _ s
    exact ⟨_, _, Steps.single stepped (by simp), Kept.refl calm,
      Busy.cons rfl rfl (by simp [Busy]), by simp⟩
  | cons m rest later =>
    have rest_clean : ∀ m ∈ rest, m.kind ≠ .shutdown := fun m' mem =>
      clean m' (List.mem_cons_of_mem _ mem)
    have rest_encodable : ∀ m ∈ rest, headersFree m = true := fun m' mem =>
      encodable m' (List.mem_cons_of_mem _ mem)
    -- a batch that is dropped whole ends in one step
    have dropped_whole : ∀ {t : World}, Move.Made w ⟨s, .handling (m :: rest), t, .draining⟩ →
        Kept s t → ∃ moves t, w.Steps s (.handling (m :: rest)) moves t .draining ∧
          Kept s t ∧ Busy moves ∧ moves.length ≤ (m :: rest).length * (n.toNat + 2) + 1 := by
      intro t stepped kept
      refine ⟨_, _, Steps.single stepped (by simp), kept, Busy.cons rfl rfl (by simp [Busy]), ?_⟩
      simp only [List.length_cons, List.length_nil, Nat.add_mul]
      omega
    cases kind : m.kind with
    | shutdown => exact absurd kind (clean m (List.mem_cons_self ..))
    | data | sensitive =>
      have publishable : m.kind = .data ∨ m.kind = .sensitive := by simp [kind]
      obtain ⟨headers, converted⟩ :=
        clientHeaders_ok_iff.mpr (encodable m (List.mem_cons_self ..))
      have stepped : Move.Made w ⟨s, .handling (m :: rest), s,
          .publishing m headers 0 rest⟩ := exec_step_publishable w _ s publishable rest converted
      obtain ⟨moves₁, t₁, published, kept₁, busy₁, length₁⟩ :=
        publishing_steps calm limited m headers rest 0
      obtain ⟨moves₂, t, handled, kept₂, busy₂, length₂⟩ :=
        later kept₁.calm rest_clean rest_encodable
      refine ⟨_, t, .step stepped (by simp) (published.append handled), kept₁.trans kept₂,
        Busy.cons rfl rfl (busy₁.append busy₂), ?_⟩
      simp only [List.length_cons, List.length_append, Nat.add_mul] at length₁ length₂ ⊢
      omega
    | brokerDetails | brokerTopicDetails =>
      -- the rest of the batch is dropped with the message
      have unsupported : m.kind = .brokerDetails ∨ m.kind = .brokerTopicDetails := by simp [kind]
      exact dropped_whole (exec_step_brokerDetails w _ s unsupported rest)
        (Kept.dropped calm (by simp) _)
    | unsupported shown =>
      -- the message is logged, and it and the rest of the batch are dropped
      have logged := Kept.logged calm
        (s.log ++ [LogLine.err (w.label ++ " - unsupported KafkaPublishMessageType=" ++ shown)])
      exact dropped_whole (exec_step_unsupported w _ s kind rest)
        (logged.trans (Kept.dropped logged.calm (by simp) _))

/-- A copy offered back to a calm queue is taken. -/
theorem requeued_calm (calm : Calm s) (m : Message) :
    w.requeued s m = { s with queue := { s.queue with items := s.queue.items ++ [m] } } := by
  unfold requeued
  rw [WorkQueue.enqueue_calm calm (List.cons_ne_nil _ _)]

/-- The batch that holds the Shutdown message, publishable messages whose headers
convert before it, worked through in a calm world: they are published or dropped, then
the stop signal is set, the copy goes to the back of the queue and the rest of the batch
is dropped; the world stays calm. -/
theorem shutdown_batch_steps (calm : Calm s) (limited : w.Limited n) {shutdown : Message}
    (isShutdown : shutdown.kind = .shutdown) (pre post : List Message)
    (publishable : ∀ m ∈ pre, m.kind = .data ∨ m.kind = .sensitive)
    (encodable : ∀ m ∈ pre, headersFree m = true) :
    ∃ moves t, w.Steps s (.handling (pre ++ shutdown :: post)) moves t .stopped ∧ Busy moves ∧
      t.queue.items = s.queue.items ++ [shutdown] ∧ t.stopSet = true ∧ Calm t ∧
      t.metrics.droppedFor .shutdownRemainder =
        s.metrics.droppedFor .shutdownRemainder + post.length ∧
      moves.length ≤ pre.length * (n.toNat + 2) + 2 := by
  induction pre generalizing s with
  | nil =>
    let stopping : World := { s with stopSet := true }
    have calm₁ : Calm stopping := calm.of_same rfl rfl rfl
    have stop : Move.Made w ⟨s, .handling (shutdown :: post), stopping,
        .requeueing shutdown post⟩ := exec_step_shutdown w _ s isShutdown post
    have requeue := exec_step_requeueing w (pure ()) stopping shutdown post
    rw [requeued_calm calm₁] at requeue
    cases post with
    | nil =>
      simp only [List.isEmpty_nil, ↓reduceIte] at requeue
      exact ⟨_, _, .step stop (by simp) (Steps.single requeue (by simp)),
        Busy.cons rfl rfl (Busy.cons rfl rfl (by simp [Busy])), rfl, rfl,
        calm₁.of_same rfl rfl rfl, by simp [stopping], by simp⟩
    | cons m rest =>
      -- the rest of the batch is dropped as Shutdown remainder
      simp only [List.isEmpty_cons, Bool.false_eq_true, ↓reduceIte] at requeue
      refine ⟨_, _, .step stop (by simp) (Steps.single requeue (by simp)),
        Busy.cons rfl rfl (Busy.cons rfl rfl (by simp [Busy])), rfl, rfl,
        calm₁.of_same rfl rfl rfl, ?_, by simp⟩
      simp [stopping, Metrics.droppedFor_recordDrop]
  | cons m pre later =>
    have kind := publishable m (List.mem_cons_self ..)
    obtain ⟨headers, converted⟩ := clientHeaders_ok_iff.mpr (encodable m (List.mem_cons_self ..))
    have stepped : Move.Made w ⟨s, .handling (m :: (pre ++ shutdown :: post)), s,
        .publishing m headers 0 (pre ++ shutdown :: post)⟩ :=
      exec_step_publishable w _ s kind _ converted
    obtain ⟨moves₁, t₁, published, kept₁, busy₁, length₁⟩ :=
      publishing_steps calm limited m headers (pre ++ shutdown :: post) 0
    obtain ⟨moves₂, t, handled, busy₂, items, stopped, calm₂, remainder, length₂⟩ :=
      later kept₁.calm (fun m' mem => publishable m' (List.mem_cons_of_mem _ mem))
        (fun m' mem => encodable m' (List.mem_cons_of_mem _ mem))
    refine ⟨_, t, .step stepped (by simp) (published.append handled),
      Busy.cons rfl rfl (busy₁.append busy₂), by rw [items, kept₁.queue], stopped, calm₂,
      by rw [remainder, kept₁.remainder], ?_⟩
    simp only [List.length_cons, List.length_append, Nat.add_mul] at length₁ length₂ ⊢
    omega

/-- A batch of `bound` messages from the front, split at a message inside it. -/
theorem take_eq_take_cons_drop {l : List Message} {i bound : Nat} {m : Message}
    (inside : i < bound) (found : l[i]? = some m) :
    l.take bound = l.take i ++ m :: (l.take bound).drop (i + 1) := by
  have found' : (l.take bound)[i]? = some m := by
    rw [List.getElem?_take]
    simp [inside, found]
  obtain ⟨within, value⟩ := List.getElem?_eq_some_iff.mp found'
  have rest : (l.take bound).drop i = m :: (l.take bound).drop (i + 1) := by
    rw [List.drop_eq_getElem_cons within, value]
  have whole := List.take_append_drop i (l.take bound)
  rw [List.take_take, Nat.min_eq_left (Nat.le_of_lt inside), rest] at whole
  exact whole.symm

/-- A drain in a calm world with messages queued: the batch is taken and handled. -/
theorem draining_step (calm : Calm s) (filled : s.queue.items ≠ [])
    (positive : 0 < w.settings.maxBatchSize) :
    Move.Made w ⟨s, .draining,
      { s with queue := { s.queue with items := s.queue.items.drop w.settings.maxBatchSize } },
      .handling (s.queue.items.take w.settings.maxBatchSize)⟩ := by
  have taken : (s.queue.items.take w.settings.maxBatchSize).isEmpty = false := by
    cases items : s.queue.items with
    | nil => exact absurd items filled
    | cons m rest =>
      obtain ⟨size, bound⟩ : ∃ size, w.settings.maxBatchSize = size + 1 :=
        ⟨w.settings.maxBatchSize - 1, by omega⟩
      rw [bound]
      rfl
  unfold Move.Made
  rw [exec_step_draining, exec_drain_calm calm]
  simp only [taken, Bool.false_eq_true, ↓reduceIte]

/-- A calm worker drains the queue batch by batch up to the batch that holds the
first Shutdown message, and stops there: it drains once per batch, never waits, and
leaves the queue after that batch with the message's copy at its back. -/
theorem batches_steps (calm : Calm s) (limited : w.Limited n) {B : Nat}
    (size : w.settings.maxBatchSize = B) (positive : 0 < B) {i : Nat} {shutdown : Message}
    (found : s.queue.items[i]? = some shutdown) (isShutdown : shutdown.kind = .shutdown)
    (first : ∀ m ∈ s.queue.items.take i, m.kind ≠ .shutdown)
    (ahead : ∀ m ∈ (s.queue.items.take i).drop (i / B * B),
      m.kind = .data ∨ m.kind = .sensitive)
    (encodable : ∀ m ∈ s.queue.items.take i, headersFree m = true) :
    ∃ moves t, w.Steps s .draining moves t .stopped ∧
      moves.countP Move.drains = i / B + 1 ∧ (∀ mv ∈ moves, mv.waits = false) ∧
      t.queue.items = s.queue.items.drop ((i / B + 1) * B) ++ [shutdown] ∧ t.stopSet = true ∧
      Calm t ∧ t.metrics.droppedFor .shutdownRemainder = s.metrics.droppedFor .shutdownRemainder +
        (min s.queue.items.length ((i / B + 1) * B) - i - 1) ∧
      moves.length ≤ i * (n.toNat + 4) + 3 := by
  -- induction on the batches before the one that holds the Shutdown message
  obtain ⟨k, batches⟩ : ∃ k, i / B = k := ⟨_, rfl⟩
  induction k generalizing s i with
  | zero =>
    -- the first batch holds the Shutdown message
    have inside : i < B := Nat.lt_of_div_eq_zero positive batches
    have filled : s.queue.items ≠ [] := by
      intro empty
      simp [empty] at found
    have drained := draining_step (w := w) calm filled (size ▸ positive)
    rw [size, take_eq_take_cons_drop inside found] at drained
    have calm₁ : Calm { s with queue := { s.queue with items := s.queue.items.drop B } } :=
      calm.of_same rfl rfl rfl
    have publishable : ∀ m ∈ s.queue.items.take i, m.kind = .data ∨ m.kind = .sensitive := by
      simpa [batches] using ahead
    obtain ⟨moves, t, handled, busy, items, stopped, calm₂, remainder, length⟩ :=
      shutdown_batch_steps calm₁ limited isShutdown _ ((s.queue.items.take B).drop (i + 1))
        publishable encodable
    refine ⟨_, t, .step drained (by simp) handled, ?_, ?_, ?_, stopped, calm₂, ?_, ?_⟩
    · rw [List.countP_cons, busy.drains, batches]
      rfl
    · intro mv mem
      rcases List.mem_cons.mp mem with rfl | later
      · rfl
      · exact (busy mv later).2
    · rw [items, batches]
      simp
    · rw [remainder, batches]
      simp only [List.length_drop, List.length_take, Nat.zero_add, Nat.one_mul]
      omega
    · simp only [List.length_cons, List.length_take] at length ⊢
      have wider : i * (n.toNat + 4) = i * (n.toNat + 2) + 2 * i := by
        rw [Nat.mul_add, Nat.mul_add, Nat.mul_comm i 2]
        omega
      rw [Nat.min_eq_left (Nat.le_of_lt (List.getElem?_eq_some_iff.mp found).1)] at length
      omega
  | succ k later =>
    -- a batch before the one that holds the Shutdown message: nothing in it stops the worker
    have above : B ≤ i := by
      rcases Nat.lt_or_ge i B with below | above
      · rw [Nat.div_eq_of_lt below] at batches
        cases batches
      · exact above
    have filled : s.queue.items ≠ [] := by
      intro empty
      simp [empty] at found
    have drained := draining_step (w := w) calm filled (size ▸ positive)
    rw [size] at drained
    have calm₁ : Calm { s with queue := { s.queue with items := s.queue.items.drop B } } :=
      calm.of_same rfl rfl rfl
    have front : s.queue.items.take B = (s.queue.items.take i).take B := by
      rw [List.take_take, Nat.min_eq_left above]
    have clean : ∀ m ∈ s.queue.items.take B, m.kind ≠ .shutdown := fun m mem =>
      first m (List.mem_of_mem_take (front ▸ mem))
    obtain ⟨moves₁, t₁, handled, kept, busy, length₁⟩ :=
      handling_steps calm₁ limited _ clean fun m mem =>
        encodable m (List.mem_of_mem_take (front ▸ mem))
    -- the queue from the next batch on holds the Shutdown message `B` places earlier
    have rest : t₁.queue.items = s.queue.items.drop B := by rw [kept.queue]
    have found' : t₁.queue.items[i - B]? = some shutdown := by
      rw [rest, List.getElem?_drop, Nat.add_sub_cancel' above]
      exact found
    have batches' : (i - B) / B = k := by
      have := Nat.div_eq_sub_div positive above
      omega
    have shifted : t₁.queue.items.take (i - B) = (s.queue.items.take i).drop B := by
      rw [rest, List.drop_take]
    have first' : ∀ m ∈ t₁.queue.items.take (i - B), m.kind ≠ .shutdown := fun m mem =>
      first m (List.mem_of_mem_drop (shifted ▸ mem))
    have ahead' : ∀ m ∈ (t₁.queue.items.take (i - B)).drop ((i - B) / B * B),
        m.kind = .data ∨ m.kind = .sensitive := by
      have skipped : B + k * B = i / B * B := by
        rw [batches, Nat.succ_mul]
        omega
      rw [shifted, List.drop_drop, batches', skipped]
      exact ahead
    have encodable' : ∀ m ∈ t₁.queue.items.take (i - B), headersFree m = true := fun m mem =>
      encodable m (List.mem_of_mem_drop (shifted ▸ mem))
    obtain ⟨moves₂, t, steps, drains, awake, items, stopped, calm₂, remainder, length₂⟩ :=
      later kept.calm found' first' ahead' encodable' batches'
    refine ⟨_, t, .step drained (by simp) (handled.append steps), ?_, ?_, ?_, stopped, calm₂,
      ?_, ?_⟩
    · rw [List.countP_cons, List.countP_append, busy.drains, drains, batches, batches']
      simp [Move.drains]
    · intro mv mem
      rcases List.mem_cons.mp mem with rfl | later
      · rfl
      rcases List.mem_append.mp later with here | after
      · exact (busy mv here).2
      · exact awake mv after
    · have skipped : B + (k + 1) * B = (k + 1 + 1) * B := by
        rw [Nat.succ_mul (k + 1)]
        omega
      rw [items, rest, List.drop_drop, batches, batches', skipped]
    · have kept_count : t₁.metrics.droppedFor .shutdownRemainder =
          s.metrics.droppedFor .shutdownRemainder := kept.remainder
      have widened : (k + 1 + 1) * B = (k + 1) * B + B := Nat.succ_mul (k + 1) B
      have within := (List.getElem?_eq_some_iff.mp found).1
      rw [remainder, kept_count, rest, List.length_drop, batches, batches', widened]
      omega
    · have batch_length : (s.queue.items.take B).length * (n.toNat + 2) ≤ B * (n.toNat + 2) :=
        Nat.mul_le_mul_right _ (List.length_take_le _ _)
      have split : i * (n.toNat + 4) = (i - B) * (n.toNat + 4) + B * (n.toNat + 4) := by
        rw [← Nat.add_mul, Nat.sub_add_cancel above]
      have wider : B * (n.toNat + 4) = B * (n.toNat + 2) + 2 * B := by
        rw [Nat.mul_add, Nat.mul_add, Nat.mul_comm B 2]
        omega
      simp only [List.length_cons, List.length_append]
      omega

/-! ### Synchronous runs -/

/-- A worker with brokers connects, and records the producer's settings. -/
theorem exec_connect_works (brokers : w.settings.hasBrokers = true) :
    ∃ settings, exec (w.connect .works) s =
      (.ok true, { s with trace := s.trace ++ [.producerCreated settings] }) := by
  cases ready : w.settings.producerSettings with
  | error f => simp [Settings.producerSettings, Settings.clientSettings, brokers] at ready
  | ok settings =>
    refine ⟨settings, ?_⟩
    unfold connect
    simp [brokers, ready, exec_map]

/-- A run whose connection and loop end normally, with nothing left in flight, ends
normally after one more flush of the producer, which it records with the number of
undelivered messages. -/
theorem exec_run_of_loop {factory : Factory} {s₁ t : World}
    (connected : exec (w.connect factory) s = (.ok true, s₁))
    (looped : exec (w.loop w.idleWait (w.stepBudget s₁) .draining) s₁ = (.ok (), t))
    (fresh : t.producer.inFlight = []) :
    (exec (w.run factory) s).1 = .ok () ∧ (exec (w.run factory) s).2.queue = t.queue ∧
      (exec (w.run factory) s).2.stopSet = t.stopSet ∧
      (exec (w.run factory) s).2.metrics = t.metrics ∧
      (exec (w.run factory) s).2.trace =
        t.trace ++ [.flush w.publishTimeout.toValue t.producer.backlog.length] := by
  unfold run
  simp only [exec_bind, connected, Bool.not_true, Bool.false_eq_true, ↓reduceIte, exec_get,
    exec_attempt, looped, Producer.flush_fresh fresh, exec_modify, exec_ofResult, exec_record]
  by_cases leftover : t.producer.backlog.length > 0
  · simp [leftover, exec_bind]
  · simp [leftover]

/-- A run's budget covers three more rounds than there are messages queued, each
with every attempt the policy allows. -/
theorem Limited.budget_covers (limited : w.Limited n) (s : World) :
    (s.queue.items.length + 3) * (n.toNat + 6) ≤ w.stepBudget s := by
  unfold Worker.stepBudget
  rw [limited.attemptLimit]
  exact Nat.mul_le_mul (by omega) (by omega)

end Worker

open Worker in
/-- One Shutdown message stops the worker that drains it. A worker alone on a calm
queue whose first Shutdown message is at index `i`, with batches of `B ≥ 1`
messages and a policy that bounds the attempts with delays its clock can sleep for,
runs to its end normally: it drains `i / B + 1` batches and never waits idle; it sets
the stop signal and flushes its producer once after its loop, which answers the
messages left undelivered; it counts the messages after the Shutdown message in its
batch as Shutdown remainder; and it leaves the queue after that batch with the
message's copy at its back. This needs the messages before the Shutdown message in
its batch to be Data or Sensitive messages, as a message of any other kind drops the
rest of its batch, and no header value of a message before it to hold a lone
surrogate, as a header that cannot be encoded ends the run with an error. -/
theorem one_shutdown_stops_worker {w : Worker} {s : World} {n : Int} {i : Nat}
    {shutdown : Message} (positive : 0 < w.settings.maxBatchSize)
    (brokers : w.settings.hasBrokers = true) (calm : Calm s) (limited : w.Limited n)
    (found : s.queue.items[i]? = some shutdown) (isShutdown : shutdown.kind = .shutdown)
    (first : ∀ m ∈ s.queue.items.take i, m.kind ≠ .shutdown)
    (ahead : ∀ m ∈ (s.queue.items.take i).drop
        (i / w.settings.maxBatchSize * w.settings.maxBatchSize),
      m.kind = .data ∨ m.kind = .sensitive)
    (encodable : ∀ m ∈ s.queue.items.take i, headersFree m = true) :
    let B := w.settings.maxBatchSize
    let connected := (exec (w.connect .works) s).2
    let budget := w.stepBudget connected
    let looped := (exec (w.loop w.idleWait budget .draining) connected).2
    let ran := exec (w.run .works) s
    ran.1 = .ok () ∧
      (w.trail w.idleWait budget .draining connected).countP Move.drains = i / B + 1 ∧
      (∀ mv ∈ w.trail w.idleWait budget .draining connected, mv.waits = false) ∧
      ran.2.stopSet = true ∧
      ran.2.trace = looped.trace ++ [.flush w.publishTimeout.toValue looped.producer.backlog.length] ∧
      ran.2.metrics.droppedFor .shutdownRemainder = s.metrics.droppedFor .shutdownRemainder +
        (min s.queue.items.length ((i / B + 1) * B) - i - 1) ∧
      ran.2.queue.items = s.queue.items.drop ((i / B + 1) * B) ++ [shutdown] := by
  intro B connected budget looped ran
  obtain ⟨settings, connects⟩ := exec_connect_works (s := s) brokers
  have after_connect : connected = { s with trace := s.trace ++ [.producerCreated settings] } := by
    simp only [connected, connects]
  have calm₁ : Calm connected := by
    rw [after_connect]
    exact calm.of_same rfl rfl rfl
  have items : connected.queue.items = s.queue.items := by rw [after_connect]
  obtain ⟨moves, t, steps, drains, awake, queue, stopped, calm₂, remainder, length⟩ :=
    batches_steps calm₁ limited rfl positive (items ▸ found) isShutdown (items ▸ first)
      (items ▸ ahead) (items ▸ encodable)
  -- the run's budget covers every step
  have within := (List.getElem?_eq_some_iff.mp found).1
  have enough : moves.length ≤ budget := by
    have covered := limited.budget_covers connected
    have steps_bound : i * (n.toNat + 4) ≤ s.queue.items.length * (n.toNat + 6) :=
      Nat.mul_le_mul (Nat.le_of_lt within) (by omega)
    have budget_split : (s.queue.items.length + 3) * (n.toNat + 6) =
        s.queue.items.length * (n.toNat + 6) + 3 * (n.toNat + 6) := Nat.add_mul _ _ _
    rw [items] at covered
    omega
  obtain ⟨trailed, loop_ends⟩ := steps.loop awake w.idleWait enough
  have connects' : exec (w.connect .works) s = (.ok true, connected) := by
    rw [connects, after_connect]
  obtain ⟨ended, run_queue, run_stop, run_metrics, run_trace⟩ :=
    exec_run_of_loop connects' loop_ends calm₂.fresh
  have looped_eq : looped = t := by simp only [looped, loop_ends]
  refine ⟨ended, by rw [trailed, drains], by rw [trailed]; exact awake, by rw [run_stop, stopped],
    by rw [run_trace, looped_eq], ?_, ?_⟩
  · rw [run_metrics, remainder, items, after_connect]
  · rw [run_queue, queue, items]

/-- A data message and a shutdown in one batch of ten: the worker publishes, stops and
leaves only the shutdown's clone behind. -/
theorem data_before_shutdown_stops :
    let w : Worker := {
      threadNum := .int 0
      label := "ktp-tid-1"
      settings := { brokers := ["localhost:9092"] }
      policy := { interval := .int 1, maxAttempts := .int 1 }
      publishTimeout := .int 6 }
    let s : World := {
      queue := {
        lockTimeout := 10.0
        waitOverflows := false
        items := [{ kind := .data, payload := .text "hello" }, { kind := .shutdown }] } }
    (exec (w.run .works) s).1 = .ok () ∧ (exec (w.run .works) s).2.stopSet = true ∧
      (exec (w.run .works) s).2.queue.items = [{ kind := .shutdown }] := by
  intro w s
  have calm : Calm s := ⟨rfl, rfl, rfl, by simp [s]⟩
  have limited : w.Limited 1 := ⟨rfl, fun a positive below => by omega⟩
  have stops := one_shutdown_stops_worker (i := 1) (by decide) rfl calm limited rfl rfl
    (by simp [s]) (by decide) (by decide)
  exact ⟨stops.1, stops.2.2.2.1, stops.2.2.2.2.2.2.trans (by simp [w, s])⟩

/-- A broker-details request ahead of the shutdown in its batch drops the rest of the batch,
the shutdown with it: the worker idles until it is stopped, with an empty queue, and no
clone is put back. -/
theorem broker_details_drop_batch_shutdown :
    let w : Worker := {
      threadNum := .int 0
      label := "ktp-tid-1"
      settings := { brokers := ["localhost:9092"] }
      policy := { interval := .int 1, maxAttempts := .int 3 }
      publishTimeout := .int 6 }
    let s : World := {
      queue := {
        lockTimeout := 10.0
        waitOverflows := false
        items := [{ kind := .brokerDetails }, { kind := .shutdown }] }
      idle := [.halt] }
    Calm s ∧ s.queue.items[1]? = some { kind := .shutdown } ∧
      (exec (w.run .works) s).1 = .ok () ∧
      (exec (w.run .works) s).2.queue.items ≠
        s.queue.items.drop ((1 / w.settings.maxBatchSize + 1) * w.settings.maxBatchSize) ++
          [{ kind := .shutdown }] := by
  intro w s
  have emptied : (exec (w.run .works) s).2.queue.items = [] := rfl
  refine ⟨⟨rfl, rfl, rfl, by simp [s]⟩, rfl, rfl, ?_⟩
  rw [emptied]
  simp

end PublishPool
