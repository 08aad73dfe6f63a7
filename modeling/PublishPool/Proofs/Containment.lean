import PublishPool.Proofs.OneShutdown
import PublishPool.Proofs.Fates

/-!
A worker keeps its faults to itself.

Inside a run every error is handled where it arises: a publish that fails answers a
status, a busy queue lock gives an empty batch, a refused copy of a Shutdown message
is logged, and messages the queue refuses during an idle wait are recorded. What is
not handled is passed on by the run after its final flush: a queue lock whose wait
cannot be measured, an error of `produce` or of a flush that a publish does not
catch, a header value that cannot be encoded, a retry policy that cannot decide or
cannot compute a delay, and a delay the worker's clock refuses to sleep for.

`Guarded` rules out the first three, for every message that is on the queue or that
an idle step brings to it, and `Worker.Answering` the last two. Every step of the loop
then succeeds and keeps the guard (`step_guarded`, progress and preservation in one),
so the loop either stops or is still going when its step budget runs out, which
stands for a loop that never ends.

Main statement: `worker_run_contains_faults`. A lock wait too long to measure is not
handled, and the run passes its fault on (`lock_wait_overflow_escapes`).
-/

namespace PublishPool

open Act

/-- A producer step after which a publish answers a status: `produce` fails, and the
flush raises while the message is in flight, only with errors a publish catches. -/
def Producer.Step.Handled : Producer.Step → Prop
  | .failWith f => f.expected = true
  | .deliver d => ∀ f, d.flushFault? = some f → f.caughtOnPublish = true

/-- An idle step that brings to the queue only messages whose headers convert. -/
def IdleStep.Encodable : IdleStep → Prop
  | .offer batch => ∀ msgs,
    (batch.iterate >>= fun docs => docs.mapM Message.ofDocument) = .ok msgs →
      ∀ m ∈ msgs, Worker.headersFree m = true
  | _ => True

/-- A world in which no step of a worker's loop fails: the queue lock's wait can be
measured; the producer has nothing in flight and every step left in its script is
handled; and every message on the queue, or brought to it by an idle step, has
headers that convert. -/
structure Guarded (s : World) : Prop where
  measurable : s.queue.waitOverflows = false
  fresh : s.producer.inFlight = []
  handled : ∀ step ∈ s.producer.script, step.Handled
  queued : ∀ m ∈ s.queue.items, Worker.headersFree m = true
  offers : ∀ step ∈ s.idle, step.Encodable

/-- A phase whose messages all have headers that convert. -/
def Worker.Phase.Encodable (ph : Worker.Phase) : Prop := ∀ m ∈ ph.held, Worker.headersFree m = true

/-- A worker whose retry policy answers: the attempt limit is absent or an integer, and
after every attempt the policy retries a delay is ready that the worker's clock can
sleep for. The delay is computed on doubles, which proofs cannot evaluate, so that it
answers is assumed. -/
structure Worker.Answering (w : Worker) : Prop where
  limit : w.policy.maxAttempts = .none ∨ ∃ n : Int, w.policy.maxAttempts = .int n
  delays : ∀ a : Nat, 0 < a → w.policy.shouldRetry (.int a) = .ok true →
    ∃ pause, w.policy.delay (.int a) = .ok pause ∧ w.clock.refusal? pause = none

/-- A policy with no limit or an integer one always decides. -/
theorem Worker.Answering.shouldRetry {w : Worker} (answering : w.Answering) (a : Int) :
    ∃ again, w.policy.shouldRetry (.int a) = .ok again := by
  rcases answering.limit with unlimited | ⟨n, limit⟩
  · exact ⟨true, RetryPolicy.shouldRetry_none unlimited _⟩
  · exact ⟨_, RetryPolicy.shouldRetry_int limit a⟩

/-- The policy of a pool's settings has no limit or an integer one. -/
theorem RetryPolicy.ofSettings_limit (s : Settings) :
    (ofSettings s).maxAttempts = .none ∨ ∃ n : Int, (ofSettings s).maxAttempts = .int n := by
  cases limit : s.retryMaxAttempts with
  | none => exact .inl (by simp [ofSettings, limit])
  | some n => exact .inr ⟨n, by simp [ofSettings, limit]⟩

/-! ### The guard -/

variable {s s' : World}

/-- The guard holds of a world with the lock settings and the producer of a guarded
world, some of its idle steps, and a queue of messages whose headers convert. -/
theorem Guarded.of_parts (guarded : Guarded s)
    (measurable : s'.queue.waitOverflows = s.queue.waitOverflows)
    (producer : s'.producer = s.producer)
    (queued : ∀ m ∈ s'.queue.items, Worker.headersFree m = true)
    (idle : s'.idle <:+ s.idle) : Guarded s' :=
  ⟨measurable ▸ guarded.measurable, producer ▸ guarded.fresh, producer ▸ guarded.handled,
    queued, fun step mem => guarded.offers step (idle.subset mem)⟩

theorem Guarded.of_same (guarded : Guarded s)
    (measurable : s'.queue.waitOverflows = s.queue.waitOverflows)
    (items : s'.queue.items = s.queue.items) (producer : s'.producer = s.producer)
    (idle : s'.idle = s.idle) : Guarded s' :=
  guarded.of_parts measurable producer (items ▸ guarded.queued) (idle ▸ List.suffix_refl _)

/-- What a flush leaves after a publish began in a guarded world is guarded: the
publish left the queue's messages and the idle steps alone and used up the script from
its front. -/
theorem Guarded.of_aloof {s₁ : World} (guarded : Guarded s) (aloof : Aloof s₁ s')
    (measurable : s₁.queue.waitOverflows = s.queue.waitOverflows)
    (items : s₁.queue.items = s.queue.items)
    (script : s₁.producer.script <:+ s.producer.script) (idle : s₁.idle = s.idle) :
    Guarded s' :=
  ⟨by rw [aloof.queue, measurable]; exact guarded.measurable, aloof.fresh,
    fun step mem => guarded.handled step ((aloof.script.trans script).subset mem),
    by rw [aloof.queue, items]; exact guarded.queued,
    by rw [aloof.idle, idle]; exact guarded.offers⟩

/-- A queue whose lock wait can be measured is drained or found busy, never refused. -/
theorem WorkQueue.drain_measurable {q : WorkQueue} (measurable : q.waitOverflows = false)
    (bound : Int) : ∃ r, q.drain (.int bound) = .ok r := by
  unfold WorkQueue.drain WorkQueue.acquire
  simp only [measurable, Bool.false_eq_true, ↓reduceIte]
  cases q.held <;> exact ⟨_, rfl⟩

/-- An enqueue changes only the messages of the queue. -/
theorem WorkQueue.enqueue_waitOverflows {q q' : WorkQueue} {msgs : List Message} {n : Nat}
    (taken : q.enqueue msgs = .ok (n, q')) : q'.waitOverflows = q.waitOverflows := by
  rw [(WorkQueue.enqueue_ok taken).1]

/-- A drain in a guarded world answers a batch, taken from the queue. -/
theorem exec_drain_guarded (guarded : Guarded s) (bound : Int) :
    ∃ batch s', exec (drain (.int bound)) s = (.ok batch, s') ∧ Guarded s' ∧
      ∀ m ∈ batch, Worker.headersFree m = true := by
  obtain ⟨r, drained⟩ := WorkQueue.drain_measurable guarded.measurable bound
  rw [exec_drain, drained]
  cases r with
  | none => exact ⟨_, _, rfl, guarded.of_same rfl rfl rfl rfl, by simp⟩
  | some r =>
    obtain ⟨batch, q⟩ := r
    obtain ⟨k, rfl, rfl⟩ := WorkQueue.drain_some drained
    exact ⟨_, _, rfl,
      guarded.of_parts rfl rfl (fun m mem => guarded.queued m (List.mem_of_mem_drop mem))
        (List.suffix_refl _),
      fun m mem => guarded.queued m (List.mem_of_mem_take mem)⟩

/-- A publish in a guarded world answers a status and keeps the guard: it uses up at
most one step of the script, and may leave the queue lock taken. -/
theorem exec_publishOne_guarded (guarded : Guarded s) (m : Message)
    (headers : List (List Value)) (timeout : Value) :
    ∃ status s', exec (publishOne m headers timeout) s = (.ok status, s') ∧ Guarded s' := by
  unfold publishOne
  cases m.wireForm with
  | error f =>
    rw [exec_produceFailed]
    exact ⟨_, _, rfl, guarded.of_same rfl rfl rfl rfl⟩
  | ok written =>
    obtain ⟨value, key⟩ := written
    simp only [exec_bind, exec_record, exec_get, exec_modify]
    obtain ⟨step, next, origin⟩ := Producer.next_spec s.producer
    have handled : step.Handled := by
      rcases origin with rfl | mem
      · exact fun f none => by cases none
      · exact guarded.handled step mem
    -- the script's first step is used up, whatever it says
    have used : ∀ {t : World}, t.producer.script = s.producer.script.drop 1 →
        t.producer.script <:+ s.producer.script := fun same => same ▸ List.drop_suffix 1 _
    unfold Producer.produce
    rw [next]
    cases step with
    | failWith f =>
      simp only [Producer.Step.Handled] at handled
      simp only [handled, ↓reduceIte, exec_produceFailed]
      exact ⟨_, _, rfl, ⟨guarded.measurable, guarded.fresh,
        fun step mem => guarded.handled step ((used rfl).subset mem), guarded.queued,
        guarded.offers⟩⟩
    | deliver d =>
      -- the message is the only one in flight, and what it makes the flush raise is caught
      have alone : ∀ d' ∈ s.producer.inFlight ++ [d], ∀ f, d'.flushFault? = some f →
          f.caughtOnPublish = true := by
        intro d' mem
        simp only [guarded.fresh, List.nil_append, List.mem_singleton] at mem
        exact mem ▸ handled
      dsimp only
      -- another party may take the lock meanwhile; the flush keeps the guard either way
      split
      · simp only [exec_bind, exec_modify]
        exact exec_awaitReport_answers m d timeout alone fun s' aloof =>
          guarded.of_aloof aloof rfl rfl (used rfl) rfl
      · exact exec_awaitReport_answers m d timeout alone fun s' aloof =>
          guarded.of_aloof aloof rfl rfl (used rfl) rfl

namespace Worker

variable {w : Worker}

theorem Waited.guarded (waited : Waited w s s') (guarded : Guarded s) : Guarded s' := by
  cases waited with
  | signalled => exact guarded.of_same rfl rfl rfl rfl
  | exhausted => exact guarded.of_same rfl rfl rfl rfl
  | offered _ next read taken =>
    -- the messages offered join the queue, and they were read from an encodable offer
    have offer := guarded.offers _ (next ▸ List.mem_cons_self ..)
    refine guarded.of_parts (WorkQueue.enqueue_waitOverflows taken) rfl ?_
      (next ▸ List.suffix_cons _ _)
    rw [(WorkQueue.enqueue_ok taken).1]
    intro m mem
    rcases List.mem_append.mp mem with queued | brought
    · exact guarded.queued m queued
    · exact offer _ read m brought
  | refused _ next => exact guarded.of_parts rfl rfl guarded.queued (next ▸ List.suffix_cons _ _)
  | unreadable _ next =>
    exact guarded.of_parts rfl rfl guarded.queued (next ▸ List.suffix_cons _ _)
  | released _ next => exact guarded.of_parts rfl rfl guarded.queued (next ▸ List.suffix_cons _ _)
  | signalSet _ next => exact guarded.of_parts rfl rfl guarded.queued (next ▸ List.suffix_cons _ _)
  | halted _ next => exact guarded.of_parts rfl rfl guarded.queued (next ▸ List.suffix_cons _ _)

theorem requeued_guarded (guarded : Guarded s) {m : Message} (free : headersFree m = true) :
    Guarded (w.requeued s m) := by
  unfold requeued
  split
  · rename_i taken
    refine guarded.of_parts (WorkQueue.enqueue_waitOverflows taken) rfl ?_ (List.suffix_refl _)
    rw [(WorkQueue.enqueue_ok taken).1]
    intro m' mem
    rcases List.mem_append.mp mem with queued | copy
    · exact guarded.queued m' queued
    · rw [List.mem_singleton.mp copy]
      exact free
  · exact guarded.of_same rfl rfl rfl rfl

/-- Every step of the loop in a guarded world, from a phase whose messages' headers
convert, succeeds, keeps the guard and goes to such a phase. -/
theorem step_guarded (answering : w.Answering) (guarded : Guarded s) {ph : Phase}
    (encodable : ph.Encodable) :
    ∃ next s', exec (w.step w.idleWait ph) s = (.ok next, s') ∧ Guarded s' ∧
      next.Encodable := by
  cases ph with
  | draining =>
    obtain ⟨batch, s', drained, guarded', free⟩ :=
      exec_drain_guarded guarded w.settings.maxBatchSize
    refine ⟨_, s', by rw [exec_step_draining, drained], guarded', ?_⟩
    cases batch.isEmpty
    · exact free
    · simp [Phase.Encodable]
  | idle =>
    rw [exec_step_idle]
    by_cases stop : s.stopSet
    · exact ⟨.stopped, s, by simp [stop], guarded, by simp [Phase.Encodable]⟩
    · obtain ⟨s', waited, how⟩ := exec_idleWait w s
      exact ⟨.draining, s', by simp [stop, waited], how.guarded guarded,
        by simp [Phase.Encodable]⟩
  | handling work =>
    cases work with
    | nil => exact ⟨_, _, exec_step_handling_nil w _ s, guarded, by simp [Phase.Encodable]⟩
    | cons m rest =>
      have dropped : ∀ (t : World) reason n, Guarded t → Guarded (w.dropped t reason n) :=
        fun t _ _ guarded => guarded.of_same rfl rfl rfl rfl
      cases kind : m.kind with
      | shutdown =>
        exact ⟨_, _, exec_step_shutdown w _ s kind rest, guarded.of_same rfl rfl rfl rfl,
          encodable⟩
      | data | sensitive =>
        have publishable : m.kind = .data ∨ m.kind = .sensitive := by simp [kind]
        -- the headers convert, as the message's do
        obtain ⟨headers, converted⟩ := clientHeaders_ok_iff.mpr (encodable m (by simp))
        exact ⟨_, _, exec_step_publishable w _ s publishable rest converted, guarded, encodable⟩
      | brokerDetails | brokerTopicDetails =>
        have details : m.kind = .brokerDetails ∨ m.kind = .brokerTopicDetails := by simp [kind]
        exact ⟨_, _, exec_step_brokerDetails w _ s details rest, dropped s _ _ guarded,
          by simp [Phase.Encodable]⟩
      | unsupported shown =>
        exact ⟨_, _, exec_step_unsupported w _ s kind rest,
          dropped _ _ _ (guarded.of_same rfl rfl rfl rfl), by simp [Phase.Encodable]⟩
  | publishing m headers made rest =>
    have rest_encodable : Phase.Encodable (.handling rest) := fun m' mem =>
      encodable m' (List.mem_cons_of_mem _ mem)
    obtain ⟨status, s₁, sent, guarded₁⟩ :=
      exec_publishOne_guarded guarded m headers w.publishTimeout.toValue
    rw [exec_step_publishing, sent]
    dsimp only
    by_cases zero : status.isZero
    · rw [if_pos zero]
      exact ⟨_, _, rfl, guarded₁.of_same rfl rfl rfl rfl, rest_encodable⟩
    · rw [if_neg zero]
      obtain ⟨again, decided⟩ := answering.shouldRetry ((made + 1 : Nat) : Int)
      rw [decided]
      cases again with
      | false => exact ⟨_, _, rfl, guarded₁.of_same rfl rfl rfl rfl, rest_encodable⟩
      | true =>
        -- the policy retries, so its delay is ready, and the clock sleeps for it
        obtain ⟨pause, delayed, takes⟩ :=
          answering.delays (made + 1) (Nat.succ_pos made) decided
        rw [delayed]
        dsimp only
        rw [takes]
        exact ⟨_, _, rfl, guarded₁.of_same rfl rfl rfl rfl, encodable⟩
  | requeueing m rest =>
    have requeued := requeued_guarded (w := w) guarded (encodable m (by simp))
    rw [exec_step_requeueing]
    cases rest with
    | nil => exact ⟨_, _, rfl, requeued, by simp [Phase.Encodable]⟩
    | cons m' rest' =>
      exact ⟨_, _, rfl, requeued.of_same rfl rfl rfl rfl, by simp [Phase.Encodable]⟩
  | stopped => exact ⟨_, _, exec_step_stopped w _ s, guarded, encodable⟩

/-- A loop in a guarded world stops, or is still going when its fuel runs out; it
fails in no other way, and the world it leaves is guarded. -/
theorem loop_contained (answering : w.Answering) :
    ∀ (fuel : Nat) (ph : Phase) (s : World), Guarded s → ph.Encodable →
      ((exec (w.loop w.idleWait fuel ph) s).1 = .ok () ∨
        (exec (w.loop w.idleWait fuel ph) s).1 = .error .endless) ∧
      Guarded (exec (w.loop w.idleWait fuel ph) s).2 := by
  intro fuel
  induction fuel with
  | zero =>
    intro ph s guarded _
    by_cases stopped : ph.isStopped
    · exact ⟨.inl (by simp [loop, stopped]), by simpa [loop, stopped] using guarded⟩
    · exact ⟨.inr (by simp [loop, stopped]), by simpa [loop, stopped] using guarded⟩
  | succ fuel ih =>
    intro ph s guarded encodable
    cases going : ph.isStopped
    · rw [exec_loop_succ w _ fuel going]
      obtain ⟨next, s', stepped, guarded', encodable'⟩ := step_guarded answering guarded encodable
      rw [stepped]
      exact ih next s' guarded' encodable'
    · exact ⟨.inl (by simp [loop, going]), by simpa [loop, going] using guarded⟩

/-! ### Whole runs -/

/-- A run whose loop leaves nothing in flight answers what its loop answered, and
records the undelivered messages. -/
theorem exec_run_fresh {factory : Factory} {s₁ : World}
    (connected : exec (w.connect factory) s = (.ok true, s₁))
    (fresh : (exec (w.loop w.idleWait (w.stepBudget s₁) .draining) s₁).2.producer.inFlight = []) :
    exec (w.run factory) s =
      ((exec (w.loop w.idleWait (w.stepBudget s₁) .draining) s₁).1,
        w.closed (exec (w.loop w.idleWait (w.stepBudget s₁) .draining) s₁).2
          (exec (w.loop w.idleWait (w.stepBudget s₁) .draining) s₁).2.producer.backlog.length) := by
  rw [exec_run_created connected, Producer.flush_fresh fresh]

end Worker

open Worker in
/-- A worker's run with its pool's retry policy raises nothing, as long as the queue
lock's wait can be measured, the producer fails only with errors a publish catches,
no message that reaches the worker has a header value that cannot be encoded, and the
policy's delays answer with pauses the worker's clock can sleep for: the run ends
normally, or its loop never ends. When the producer was created it is flushed once
more after the loop, and the flush records the messages still undelivered; when it was
not, the queue is left as it was. -/
theorem worker_run_contains_faults {w : Worker} {factory : Factory} {s : World}
    (settled : w.policy = RetryPolicy.ofSettings w.settings) (guarded : Guarded s)
    (delays : ∀ a : Nat, 0 < a → w.policy.shouldRetry (.int a) = .ok true →
      ∃ pause, w.policy.delay (.int a) = .ok pause ∧ w.clock.refusal? pause = none) :
    let connected := exec (w.connect factory) s
    let looped := (exec (w.loop w.idleWait (w.stepBudget connected.2) .draining) connected.2).2
    let ran := exec (w.run factory) s
    (ran.1 = .ok () ∨ ran.1 = .error .endless) ∧
      (connected.1 = .ok true → ran.2.trace =
        looped.trace ++ [.flush w.publishTimeout.toValue looped.producer.backlog.length]) ∧
      (connected.1 = .ok false → ran.2.queue = s.queue) := by
  intro connected looped ran
  have answering : w.Answering := by
    refine ⟨?_, delays⟩
    rw [settled]
    exact RetryPolicy.ofSettings_limit w.settings
  obtain ⟨created, lines, events, connects⟩ := exec_connect w factory
  have same : connected = (.ok created,
      { s with log := s.log ++ lines, trace := s.trace ++ events }) := connects s
  cases created
  · -- no producer: the run ends at once, with the queue untouched
    have ended := exec_run_uncreated (connects s)
    refine ⟨.inl (by simp only [ran, ended]), fun made => by simp [same] at made, fun _ => ?_⟩
    simp only [ran, ended]
  · have guarded₁ : Guarded connected.2 := by
      rw [same]
      exact guarded.of_same rfl rfl rfl rfl
    obtain ⟨outcome, guarded₂⟩ := loop_contained answering (w.stepBudget connected.2) .draining
      connected.2 guarded₁ (by simp [Phase.Encodable])
    -- the loop leaves nothing in flight, so the final flush cannot raise
    have ended := exec_run_fresh (connects s) (by simpa only [same] using guarded₂.fresh)
    refine ⟨?_, fun _ => ?_, fun made => by simp [same] at made⟩
    · simp only [ran, ended]
      rw [same] at outcome
      exact outcome
    · simp only [ran, ended, looped, same, closed]

/-- A worker with one attempt per message, the rest of its settings at their defaults,
on a queue with a Data message and a Shutdown message: its run raises nothing. -/
theorem single_attempt_worker_contains_faults :
    let settings : Settings := { brokers := ["localhost:9092"], retryMaxAttempts := some 1 }
    let w : Worker := { threadNum := .int 0, label := "ktp-tid-1", settings,
                        policy := RetryPolicy.ofSettings settings, publishTimeout := .int 6 }
    let s : World := {
      queue := {
        lockTimeout := 10.0
        waitOverflows := false
        items := [{ kind := .data, payload := .text "hello" }, { kind := .shutdown }] } }
    (w.policy = RetryPolicy.ofSettings w.settings ∧ Guarded s ∧
      (∀ a : Nat, 0 < a → w.policy.shouldRetry (.int a) = .ok true →
        ∃ pause, w.policy.delay (.int a) = .ok pause ∧ w.clock.refusal? pause = none)) ∧
    ((exec (w.run .works) s).1 = .ok () ∨ (exec (w.run .works) s).1 = .error .endless) := by
  intro settings w s
  have guarded : Guarded s :=
    ⟨rfl, rfl, by simp [s], by simp [s, Worker.headersFree], by simp [s]⟩
  have delays : ∀ a : Nat, 0 < a → w.policy.shouldRetry (.int a) = .ok true →
      ∃ pause, w.policy.delay (.int a) = .ok pause ∧ w.clock.refusal? pause = none := by
    intro a positive retried
    -- one attempt is all the policy allows, so it never retries
    rw [RetryPolicy.shouldRetry_int (n := 1) rfl] at retried
    simp at retried
    omega
  have contained := @worker_run_contains_faults w .works s rfl guarded delays
  exact ⟨⟨rfl, guarded, delays⟩, contained.1⟩

/-- A queue lock whose wait is too long to measure: the worker's first drain fails,
and the run passes the fault on after its final flush. -/
theorem lock_wait_overflow_escapes :
    let settings : Settings := { brokers := ["localhost:9092"], logLabel := .str "test",
                                 lockTimeoutSec := 1e10 }
    let w : Worker := { threadNum := .int 0, label := "test-tid-1", settings,
                        policy := RetryPolicy.ofSettings settings, publishTimeout := .int 6 }
    let s : World := { queue := { lockTimeout := 1e10, waitOverflows := true } }
    (exec (w.run .works) s).1 = .error WorkQueue.waitTooLong := by
  intro settings w s
  rfl

end PublishPool
