import PublishPool.Worker.Run
import PublishPool.Proofs.QueueOrder

/-!
What one step of a worker does.

A worker's loop is `Worker.step` from one `Worker.Phase` to the next. This module
says once, for each phase, what its step does (`exec_step_draining` and the lemmas
after it), and gathers every way a step can succeed in one inversion,
`Worker.Stepped.of_exec`, from which what a step keeps is proved case by case; every
way an idle wait can go is `Worker.Waited`, from `Worker.exec_idleWait`. It also says
what the counting of messages looks at across every step:

* `Metrics.droppedFor_recordDrop`, `Metrics.totalDropped_recordDrop`: a drop adds
  its count to its reason and to the total, as long as no reason is recorded twice
  (`Metrics.Keyed`, which every drop keeps);
* `publishOne_untouched`: publishing one message leaves the counters, the warnings,
  the queue's contents and the stop signal as they were.
-/

namespace PublishPool

open Act

/-! ### Counters -/

namespace Metrics

variable {l : List (DropReason × Nat)} {r r' : DropReason} {n : Nat}

/-- No reason is recorded twice, as in a mapping from reasons to counts. -/
def Keyed (m : Metrics) : Prop := (m.dropped.map Prod.fst).Nodup

@[simp] theorem keyed_empty : ({} : Metrics).Keyed := List.nodup_nil

/-- Adding to the entries of one reason adds to what a lookup of that reason finds. -/
theorem lookup_bump (l : List (DropReason × Nat)) (r r' : DropReason) (n : Nat) :
    (l.map fun e => if e.1 == r then (r, e.2 + n) else e).lookup r' =
      (l.lookup r').map (· + if r' = r then n else 0) := by
  induction l with
  | nil => rfl
  | cons e rest ih =>
    obtain ⟨a, v⟩ := e
    have key : (r' == a) = decide (r' = a) := rfl
    by_cases ha : a = r
    · subst ha
      by_cases hr : r' = a
      · subst hr; simp
      · simp only [List.map_cons, beq_self_eq_true, if_true, List.lookup_cons, key, hr,
          decide_false, ih, if_false]
    · by_cases hr : r' = a
      · subst hr; simp [ha]
      · have skip : (a == r) = false := by simp [ha]
        simp only [List.map_cons, skip, Bool.false_eq_true, ↓reduceIte, List.lookup_cons, key, hr,
          decide_false, ih]

theorem lookup_isSome_of_any (h : l.any (·.1 == r) = true) : (l.lookup r).isSome = true := by
  induction l with
  | nil => simp at h
  | cons e rest ih =>
    obtain ⟨a, v⟩ := e
    by_cases ha : a = r
    · subst ha; simp
    · have later : rest.any (·.1 == r) = true := by simpa [ha] using h
      have skip : (r == a) = false := by simp [Ne.symm ha]
      simp only [List.lookup_cons, skip]
      exact ih later

theorem lookup_eq_none_of_not_any (h : ¬ l.any (·.1 == r) = true) : l.lookup r = none := by
  induction l with
  | nil => rfl
  | cons e rest ih =>
    obtain ⟨a, v⟩ := e
    have ha : a ≠ r := fun same => h (by simp [same])
    have skip : (r == a) = false := by simp [Ne.symm ha]
    simp only [List.lookup_cons, skip]
    exact ih fun later => h (by simp [later])

theorem bump_of_not_mem (h : r ∉ l.map Prod.fst) :
    (l.map fun e => if e.1 == r then (r, e.2 + n) else e) = l := by
  induction l with
  | nil => rfl
  | cons e rest ih =>
    have ha : e.1 ≠ r := fun same => h (by simp [← same])
    have skip : (e.1 == r) = false := by simp [ha]
    simp only [List.map_cons, skip, Bool.false_eq_true, ↓reduceIte, List.cons.injEq, true_and]
    exact ih fun mem => h (by simp_all)

theorem droppedFor_recordDrop (m : Metrics) (r r' : DropReason) (n : Nat) :
    (m.recordDrop r n).droppedFor r' = m.droppedFor r' + if r' = r then n else 0 := by
  unfold recordDrop droppedFor
  by_cases zero : n = 0
  · simp [zero]
  · simp only [zero, ↓reduceIte]
    by_cases present : m.dropped.any (·.1 == r) = true
    · simp only [present, ↓reduceIte, lookup_bump]
      by_cases same : r' = r
      · subst same
        obtain ⟨v, found⟩ := Option.isSome_iff_exists.mp (lookup_isSome_of_any present)
        simp [found]
      · simp [same]
    · simp only [present, Bool.false_eq_true, ↓reduceIte, List.lookup_append]
      by_cases same : r' = r
      · subst same
        simp [lookup_eq_none_of_not_any present]
      · have skip : (r' == r) = false := by simp [same]
        cases m.dropped.lookup r' <;> simp [List.lookup_cons, skip, same]

theorem foldr_add_start (xs : List Nat) (a : Nat) :
    xs.foldr (· + ·) a = xs.foldr (· + ·) 0 + a := by
  induction xs with
  | nil => simp
  | cons x rest ih => simp only [List.foldr_cons, ih]; omega

theorem total_append (l l' : List (DropReason × Nat)) :
    ((l ++ l').map (·.2)).foldr (· + ·) 0 =
      (l.map (·.2)).foldr (· + ·) 0 + (l'.map (·.2)).foldr (· + ·) 0 := by
  rw [List.map_append, List.foldr_append, foldr_add_start]

theorem total_bump (keyed : (l.map Prod.fst).Nodup) (mem : r ∈ l.map Prod.fst) :
    ((l.map fun e => if e.1 == r then (r, e.2 + n) else e).map (·.2)).foldr (· + ·) 0 =
      (l.map (·.2)).foldr (· + ·) 0 + n := by
  induction l with
  | nil => simp at mem
  | cons e rest ih =>
    obtain ⟨a, v⟩ := e
    simp only [List.map_cons, List.nodup_cons] at keyed
    by_cases ha : a = r
    · subst ha
      have rest_same := bump_of_not_mem (n := n) keyed.1
      simp only [List.map_cons, beq_self_eq_true, ↓reduceIte, List.foldr_cons, rest_same]
      omega
    · have later : r ∈ rest.map Prod.fst := by simpa [Ne.symm ha] using mem
      have skip : (a == r) = false := by simp [ha]
      simp only [List.map_cons, skip, Bool.false_eq_true, ↓reduceIte, List.foldr_cons,
        ih keyed.2 later]
      omega

theorem totalDropped_recordDrop {m : Metrics} (keyed : m.Keyed) (r : DropReason) (n : Nat) :
    (m.recordDrop r n).totalDropped = m.totalDropped + n := by
  unfold Keyed at keyed
  unfold recordDrop totalDropped
  by_cases zero : n = 0
  · simp [zero]
  · simp only [zero, ↓reduceIte]
    by_cases present : m.dropped.any (·.1 == r) = true
    · have mem : r ∈ m.dropped.map Prod.fst := by
        obtain ⟨e, inside, key⟩ := List.any_eq_true.mp present
        exact List.mem_map.mpr ⟨e, inside, by simpa using key⟩
      simp only [present, ↓reduceIte]
      exact total_bump keyed mem
    · simp only [present, Bool.false_eq_true, ↓reduceIte, total_append]
      simp

theorem keyed_recordDrop {m : Metrics} (keyed : m.Keyed) (r : DropReason) (n : Nat) :
    (m.recordDrop r n).Keyed := by
  unfold Keyed at keyed ⊢
  unfold recordDrop
  by_cases zero : n = 0
  · simpa [zero] using keyed
  · simp only [zero, ↓reduceIte]
    by_cases present : m.dropped.any (·.1 == r) = true
    · have same_keys : ((m.dropped.map fun e => if e.1 == r then (r, e.2 + n) else e).map
          Prod.fst) = m.dropped.map Prod.fst := by
        simp only [List.map_map]
        apply List.map_congr_left
        intro e _
        by_cases he : e.1 = r <;> simp [he]
      simp only [present, ↓reduceIte]
      rw [same_keys]
      exact keyed
    · have fresh : r ∉ m.dropped.map Prod.fst := by
        intro mem
        obtain ⟨e, inside, key⟩ := List.mem_map.mp mem
        exact present (List.any_eq_true.mpr ⟨e, inside, by simp [key]⟩)
      simp only [present, Bool.false_eq_true, ↓reduceIte, List.map_append, List.map_cons,
        List.map_nil]
      refine List.nodup_append.mpr ⟨keyed, by simp, ?_⟩
      intro a mem b single same
      simp only [List.mem_singleton] at single
      subst single same
      exact fresh mem

@[simp] theorem recordDrop_published (m : Metrics) (r : DropReason) (n : Nat) :
    (m.recordDrop r n).published = m.published := by
  unfold recordDrop; split
  · rfl
  · split <;> rfl

end Metrics

/-! ### What publishing leaves alone -/

/-- The warning lines of a log, in order. -/
def warnings (log : List LogLine) : List LogLine := log.filter (·.severity == .warning)

@[simp] theorem warnings_append (log log' : List LogLine) :
    warnings (log ++ log') = warnings log ++ warnings log' := List.filter_append _ _

@[simp] theorem warnings_nil : warnings [] = [] := rfl

@[simp] theorem warnings_err (text : String) (log : List LogLine) :
    warnings (LogLine.err text :: log) = warnings log := rfl

@[simp] theorem warnings_warn (text : String) (log : List LogLine) :
    warnings (LogLine.warn text :: log) = LogLine.warn text :: warnings log := rfl

/-- A change that leaves the counters, the warnings, the queue's contents and the
stop signal as they were. -/
structure Untouched (s s' : World) : Prop where
  metrics : s'.metrics = s.metrics
  warnings : warnings s'.log = warnings s.log
  items : s'.queue.items = s.queue.items
  stop : s'.stopSet = s.stopSet

theorem Untouched.refl (s : World) : Untouched s s := ⟨rfl, rfl, rfl, rfl⟩

theorem Untouched.trans {s s' s'' : World} (first : Untouched s s') (second : Untouched s' s'') :
    Untouched s s'' :=
  ⟨second.metrics.trans first.metrics, second.warnings.trans first.warnings,
    second.items.trans first.items, second.stop.trans first.stop⟩

/-- Flushing and purging touch only the producer, the events and error lines. -/
theorem flushAndPurge_untouched (timeout : Value) (s : World) :
    Untouched s (exec (flushAndPurge timeout) s).2 := by
  unfold flushAndPurge
  simp only [exec_bind, exec_get, exec_modify]
  obtain ⟨flushed, p⟩ := s.producer.flush
  cases flushed with
  | error f => exact ⟨rfl, rfl, rfl, rfl⟩
  | ok remaining =>
    simp only [exec_ofResult, exec_record]
    split
    · simp only [exec_bind, exec_get, exec_record, exec_logError]
      split <;> exact ⟨rfl, by simp, rfl, rfl⟩
    · exact ⟨rfl, rfl, rfl, rfl⟩

/-- A failed publish only logs. -/
theorem produceFailed_untouched (m : Message) (text : String) (s : World) :
    Untouched s (exec (produceFailed m text) s).2 :=
  ⟨rfl, by simp [produceFailed, exec_map], rfl, rfl⟩

/-- Waiting for a report touches what a flush touches, and the error lines. -/
theorem awaitReport_untouched (m : Message) (d : Delivery) (timeout : Value) (s : World) :
    Untouched s (exec (awaitReport m d timeout) s).2 := by
  unfold awaitReport
  simp only [exec_bind, exec_attempt]
  refine Untouched.trans (flushAndPurge_untouched timeout s) ?_
  split
  · split
    · exact produceFailed_untouched m _ _
    · exact Untouched.refl _
  · exact Untouched.refl _

/-- Publishing one message touches only the producer, the events, error lines and
whether the queue lock is held. -/
theorem publishOne_untouched (m : Message) (headers : List (List Value)) (timeout : Value)
    (s : World) : Untouched s (exec (publishOne m headers timeout) s).2 := by
  unfold publishOne
  cases m.wireForm with
  | error f => exact produceFailed_untouched m _ s
  | ok written =>
    simp only [exec_bind, exec_record, exec_get, exec_modify]
    obtain ⟨p, r⟩ := s.producer.produce
    cases r with
    | error f =>
      dsimp only
      split
      · refine Untouched.trans ?_ (produceFailed_untouched m _ _)
        exact ⟨rfl, rfl, rfl, rfl⟩
      · exact ⟨rfl, rfl, rfl, rfl⟩
    | ok d =>
      dsimp only
      -- taking the lock changes whether it is held, not the contents
      split
      · simp only [exec_bind, exec_modify]
        refine Untouched.trans ?_ (awaitReport_untouched m d timeout _)
        exact ⟨rfl, rfl, rfl, rfl⟩
      · refine Untouched.trans ?_ (awaitReport_untouched m d timeout _)
        exact ⟨rfl, rfl, rfl, rfl⟩

/-- Whatever publishing one message answered, it left the rest alone. -/
theorem Untouched.of_sent {m : Message} {headers : List (List Value)} {timeout : Value}
    {s s₁ : World} {r : Except Fault Value}
    (sent : exec (publishOne m headers timeout) s = (r, s₁)) : Untouched s s₁ := by
  have quiet := publishOne_untouched m headers timeout s
  rwa [sent] at quiet

/-! ### One step from each phase -/

namespace Worker

/-- The world after a drop: the count recorded and the warning logged. -/
def dropped (w : Worker) (s : World) (reason : DropReason) (n : Nat) : World :=
  { s with metrics := s.metrics.recordDrop reason n,
           log := s.log ++ [LogLine.warn (dropText w.label reason n)] }

/-- The world after a Shutdown message's copy was offered back to the queue: the
queue with it, or the refusal logged. -/
def requeued (w : Worker) (s : World) (m : Message) : World :=
  match s.queue.enqueue [m] with
  | .ok (_, q) => { s with queue := q }
  | .error f =>
    let logged := if WorkQueue.isRefusal f then s.log ++ [LogLine.err f.message] else s.log
    { s with log := logged ++ [LogLine.err
        (w.label ++ " - failed to requeue shutdown message into queue with err=" ++ f.message)] }

/-- The world after an attempt that failed: counted, and logged as an error. -/
def failedAttempt (w : Worker) (s : World) (m : Message) (status : Value) (attempt : Nat) :
    World :=
  { s with metrics := { s.metrics with publishFailures := s.metrics.publishFailures + 1 },
           log := s.log ++ [LogLine.err (w.label ++ " - failed to publish delivery status=" ++
             status.display ++ " attempt=" ++ toString attempt ++ " msg=" ++ m.describe)] }

/-- The world after the last attempt the policy allows failed: logged, and the
message dropped. -/
def gaveUp (w : Worker) (s : World) (m : Message) (attempt : Nat) : World :=
  w.dropped { s with log := s.log ++ [LogLine.err (w.label ++ " - giving up after " ++
    toString attempt ++ " attempts msg=" ++ m.describe)] } .retriesExhausted 1

variable (w : Worker) (wait : Act Unit) (s : World)

@[simp] theorem requeued_metrics (m : Message) : (w.requeued s m).metrics = s.metrics := by
  unfold requeued; split <;> rfl

@[simp] theorem warnings_requeued (m : Message) :
    warnings (w.requeued s m).log = warnings s.log := by
  unfold requeued
  split
  · rfl
  · split <;> simp

/-- The copy is appended when the queue takes it; the contents stay otherwise. -/
theorem requeued_items (m : Message) :
    (w.requeued s m).queue.items = s.queue.items ++ match s.queue.enqueue [m] with
      | .ok _ => [m]
      | .error _ => [] := by
  unfold requeued
  cases taken : s.queue.enqueue [m] with
  | ok r => simp [(WorkQueue.enqueue_ok taken).1]
  | error f => simp

@[simp] theorem exec_drop (reason : DropReason) (n : Nat) :
    exec (w.drop reason n) s = (.ok (), w.dropped s reason n) := rfl

theorem exec_requeueShutdown (m : Message) :
    exec (w.requeueShutdown m) s = (.ok (), w.requeued s m) := by
  unfold requeueShutdown requeued
  simp only [exec_bind, exec_attempt, exec_enqueue]
  cases s.queue.enqueue [m] with
  | ok r => rfl
  | error f => cases hf : WorkQueue.isRefusal f <;> simp [hf]

theorem exec_step_draining :
    exec (w.step wait .draining) s = match exec (drain (.int w.settings.maxBatchSize)) s with
      | (.ok batch, s') => (.ok (if batch.isEmpty then .idle else .handling batch), s')
      | (.error f, s') => (.error f, s') := by
  simp only [step, exec_bind]
  cases exec (drain (.int w.settings.maxBatchSize)) s with
  | mk r s' => cases r <;> rfl

theorem exec_step_idle :
    exec (w.step wait .idle) s = if s.stopSet then (.ok .stopped, s) else
      match exec wait s with
      | (.ok _, s') => (.ok .draining, s')
      | (.error f, s') => (.error f, s') := by
  simp only [step, exec_bind, exec_get]
  by_cases stop : s.stopSet
  · simp [stop]
  · simp only [stop, Bool.false_eq_true, ↓reduceIte, exec_bind]
    cases exec wait s with
    | mk r s' => cases r <;> rfl

@[simp] theorem exec_step_handling_nil :
    exec (w.step wait (.handling [])) s = (.ok .draining, s) := rfl

theorem exec_step_shutdown {m : Message} (kind : m.kind = .shutdown) (rest : List Message) :
    exec (w.step wait (.handling (m :: rest))) s =
      (.ok (.requeueing m rest), { s with stopSet := true }) := by
  simp [step, kind, exec_map]

theorem exec_step_publishable {m : Message} (kind : m.kind = .data ∨ m.kind = .sensitive)
    (rest : List Message) {headers : List (List Value)}
    (converted : clientHeaders m = .ok headers) :
    exec (w.step wait (.handling (m :: rest))) s = (.ok (.publishing m headers 0 rest), s) := by
  rcases kind with kind | kind <;> simp [step, kind, converted, exec_map]

/-- A Data or Sensitive message whose headers cannot be converted fails the step. -/
theorem exec_step_unconvertible {m : Message} (kind : m.kind = .data ∨ m.kind = .sensitive)
    (rest : List Message) {f : Fault} (failed : clientHeaders m = .error f) :
    exec (w.step wait (.handling (m :: rest))) s = (.error f, s) := by
  rcases kind with kind | kind <;> simp [step, kind, failed, exec_map]

theorem exec_step_brokerDetails {m : Message}
    (kind : m.kind = .brokerDetails ∨ m.kind = .brokerTopicDetails) (rest : List Message) :
    exec (w.step wait (.handling (m :: rest))) s =
      (.ok .draining, w.dropped s .notImplemented (1 + rest.length)) := by
  rcases kind with kind | kind <;> simp [step, kind, exec_map]

/-- A message of a kind outside the five is logged, and it and the rest of its batch
are dropped. -/
theorem exec_step_unsupported {m : Message} {shown : String} (kind : m.kind = .unsupported shown)
    (rest : List Message) :
    exec (w.step wait (.handling (m :: rest))) s =
      (.ok .draining, w.dropped { s with log := s.log ++
        [LogLine.err (w.label ++ " - unsupported KafkaPublishMessageType=" ++ shown)] }
        .unsupportedKind (1 + rest.length)) := by
  simp [step, kind, exec_bind, exec_map]

/-- A pause is noted, unless the worker's clock refuses it. -/
theorem exec_sleep (pause : Value) :
    exec (w.sleep pause) s = match w.clock.refusal? pause with
      | some f => (.error f, s)
      | none => (.ok (), { s with trace := s.trace ++ [.sleep pause] }) := by
  unfold sleep
  cases w.clock.refusal? pause <;> rfl

theorem exec_step_requeueing (m : Message) (rest : List Message) :
    exec (w.step wait (.requeueing m rest)) s =
      (.ok .stopped, if rest.isEmpty then w.requeued s m else
        w.dropped { w.requeued s m with log := (w.requeued s m).log ++
          [LogLine.err (w.label ++ " - work batch NOT empty=" ++ toString rest.length)] }
          .shutdownRemainder rest.length) := by
  simp only [step, exec_bind, exec_requeueShutdown]
  cases rest with
  | nil => rfl
  | cons m' rest' => simp [exec_bind, exec_map]

/-- One attempt to publish: delivered and counted; or failed and counted, then
dropped when the policy allows no more, or retried after the policy's delay, which
the worker's clock may refuse. -/
theorem exec_step_publishing (m : Message) (headers : List (List Value)) (made : Nat)
    (rest : List Message) :
    exec (w.step wait (.publishing m headers made rest)) s =
      match exec (publishOne m headers w.publishTimeout.toValue) s with
      | (.error f, s₁) => (.error f, s₁)
      | (.ok status, s₁) =>
        if status.isZero then
          (.ok (.handling rest),
            { s₁ with metrics := { s₁.metrics with published := s₁.metrics.published + 1 } })
        else
          match w.policy.shouldRetry (.int ((made + 1 : Nat) : Int)) with
          | .error f => (.error f, w.failedAttempt s₁ m status (made + 1))
          | .ok false =>
            (.ok (.handling rest), w.gaveUp (w.failedAttempt s₁ m status (made + 1)) m (made + 1))
          | .ok true =>
            match w.policy.delay (.int ((made + 1 : Nat) : Int)) with
            | .error f => (.error f, w.failedAttempt s₁ m status (made + 1))
            | .ok pause =>
              match w.clock.refusal? pause with
              | some f => (.error f, w.failedAttempt s₁ m status (made + 1))
              | none =>
                (.ok (.publishing m headers (made + 1) rest),
                  { w.failedAttempt s₁ m status (made + 1) with
                    trace := (w.failedAttempt s₁ m status (made + 1)).trace ++
                      [.sleep pause] }) := by
  simp only [step, exec_bind]
  cases exec (publishOne m headers w.publishTimeout.toValue) s with
  | mk r s₁ =>
    cases r with
    | error f => rfl
    | ok status =>
      by_cases zero : status.isZero
      · simp [zero, exec_map]
      · simp only [zero, Bool.false_eq_true, ↓reduceIte, exec_bind, exec_count, exec_logError,
          exec_ofResult]
        cases w.policy.shouldRetry (.int ((made + 1 : Nat) : Int)) with
        | error f => rfl
        | ok again =>
          cases again with
          | false => simp [exec_bind, exec_map, failedAttempt, gaveUp, dropped]
          | true =>
            simp only [Bool.not_true, Bool.false_eq_true, ↓reduceIte, exec_bind, exec_ofResult]
            cases w.policy.delay (.int ((made + 1 : Nat) : Int)) with
            | error f => rfl
            | ok pause =>
              simp only [exec_sleep]
              cases w.clock.refusal? pause with
              | some f => rfl
              | none => simp [failedAttempt]

@[simp] theorem exec_step_stopped : exec (w.step wait .stopped) s = (.ok .stopped, s) := rfl

end Worker

namespace Worker

/-! ### Every way a step can go -/

/-- How one step of the loop can succeed when its idle wait only lets time pass: from
which world and phase to which. Said once here, so that what a step keeps is proved
case by case without going back to the step itself. -/
inductive Stepped (w : Worker) : World → Phase → World → Phase → Prop
  /-- A batch drained; an empty one means an idle wait next. -/
  | drained {s : World} {batch : List Message} {q : WorkQueue}
      (taken : s.queue.drain (.int w.settings.maxBatchSize) = .ok (some (batch, q))) :
      Stepped w s .draining { s with queue := q } (if batch.isEmpty then .idle else .handling batch)
  /-- The lock was busy: the timeout logged, nothing drained. -/
  | busy {s : World} (busy : s.queue.drain (.int w.settings.maxBatchSize) = .ok none) :
      Stepped w s .draining
        { s with log := s.log ++ [LogLine.err (Fault.lockTimeoutText s.queue.lockTimeout)] } .idle
  | stops {s : World} (stop : s.stopSet = true) : Stepped w s .idle s .stopped
  | waits {s : World} (going : s.stopSet = false) : Stepped w s .idle s .draining
  | finishes {s : World} : Stepped w s (.handling []) s .draining
  | shutdown {s : World} {m : Message} {rest : List Message} (kind : m.kind = .shutdown) :
      Stepped w s (.handling (m :: rest)) { s with stopSet := true } (.requeueing m rest)
  | publishable {s : World} {m : Message} {rest : List Message} {headers : List (List Value)}
      (kind : m.kind = .data ∨ m.kind = .sensitive) (converted : clientHeaders m = .ok headers) :
      Stepped w s (.handling (m :: rest)) s (.publishing m headers 0 rest)
  | notImplemented {s : World} {m : Message} {rest : List Message}
      (kind : m.kind = .brokerDetails ∨ m.kind = .brokerTopicDetails) :
      Stepped w s (.handling (m :: rest)) (w.dropped s .notImplemented (1 + rest.length)) .draining
  | unsupported {s : World} {m : Message} {rest : List Message} {shown : String}
      (kind : m.kind = .unsupported shown) :
      Stepped w s (.handling (m :: rest))
        (w.dropped { s with log := s.log ++
          [LogLine.err (w.label ++ " - unsupported KafkaPublishMessageType=" ++ shown)] }
          .unsupportedKind (1 + rest.length)) .draining
  | delivered {s s₁ : World} {m : Message} {headers : List (List Value)} {made : Nat}
      {rest : List Message} {status : Value}
      (sent : exec (publishOne m headers w.publishTimeout.toValue) s = (.ok status, s₁))
      (zero : status.isZero = true) :
      Stepped w s (.publishing m headers made rest)
        { s₁ with metrics := { s₁.metrics with published := s₁.metrics.published + 1 } }
        (.handling rest)
  | gaveUp {s s₁ : World} {m : Message} {headers : List (List Value)} {made : Nat}
      {rest : List Message} {status : Value}
      (sent : exec (publishOne m headers w.publishTimeout.toValue) s = (.ok status, s₁))
      (failed : status.isZero = false)
      (last : w.policy.shouldRetry (.int ((made + 1 : Nat) : Int)) = .ok false) :
      Stepped w s (.publishing m headers made rest)
        (w.gaveUp (w.failedAttempt s₁ m status (made + 1)) m (made + 1)) (.handling rest)
  | retried {s s₁ : World} {m : Message} {headers : List (List Value)} {made : Nat}
      {rest : List Message} {status : Value} {pause : Value}
      (sent : exec (publishOne m headers w.publishTimeout.toValue) s = (.ok status, s₁))
      (failed : status.isZero = false)
      (again : w.policy.shouldRetry (.int ((made + 1 : Nat) : Int)) = .ok true)
      (delay : w.policy.delay (.int ((made + 1 : Nat) : Int)) = .ok pause)
      (takes : w.clock.refusal? pause = none) :
      Stepped w s (.publishing m headers made rest)
        { w.failedAttempt s₁ m status (made + 1) with
          trace := (w.failedAttempt s₁ m status (made + 1)).trace ++ [.sleep pause] }
        (.publishing m headers (made + 1) rest)
  | requeued {s : World} {m : Message} {rest : List Message} :
      Stepped w s (.requeueing m rest)
        (if rest.isEmpty then w.requeued s m else
          w.dropped { w.requeued s m with log := (w.requeued s m).log ++
            [LogLine.err (w.label ++ " - work batch NOT empty=" ++ toString rest.length)] }
            .shutdownRemainder rest.length)
        .stopped
  | stopped {s : World} : Stepped w s .stopped s .stopped

/-- Every step that succeeds goes one of the ways `Stepped` lists. -/
theorem Stepped.of_exec {w : Worker} {s s' : World} {ph next : Phase}
    (ran : exec (w.step (pure ()) ph) s = (.ok next, s')) : Stepped w s ph s' next := by
  cases ph with
  | draining =>
    rw [exec_step_draining, exec_drain] at ran
    cases drained : s.queue.drain (.int w.settings.maxBatchSize) with
    | error f => simp [drained] at ran
    | ok r =>
      cases r with
      | none =>
        simp only [drained, List.isEmpty_nil, ↓reduceIte, Prod.mk.injEq, Except.ok.injEq] at ran
        obtain ⟨rfl, rfl⟩ := ran
        exact .busy drained
      | some r =>
        obtain ⟨batch, q⟩ := r
        simp only [drained, Prod.mk.injEq, Except.ok.injEq] at ran
        obtain ⟨rfl, rfl⟩ := ran
        exact .drained drained
  | idle =>
    rw [exec_step_idle, exec_pure] at ran
    cases stop : s.stopSet
    · simp only [stop, Bool.false_eq_true, ↓reduceIte, Prod.mk.injEq, Except.ok.injEq] at ran
      obtain ⟨rfl, rfl⟩ := ran
      exact .waits stop
    · simp only [stop, ↓reduceIte, Prod.mk.injEq, Except.ok.injEq] at ran
      obtain ⟨rfl, rfl⟩ := ran
      exact .stops stop
  | handling work =>
    cases work with
    | nil =>
      simp only [exec_step_handling_nil, Prod.mk.injEq, Except.ok.injEq] at ran
      obtain ⟨rfl, rfl⟩ := ran
      exact .finishes
    | cons m rest =>
      cases kind : m.kind with
      | shutdown =>
        simp only [exec_step_shutdown _ _ _ kind, Prod.mk.injEq, Except.ok.injEq] at ran
        obtain ⟨rfl, rfl⟩ := ran
        exact .shutdown kind
      | data | sensitive =>
        have publishable : m.kind = .data ∨ m.kind = .sensitive := by simp [kind]
        cases converted : clientHeaders m with
        | error f => rw [exec_step_unconvertible _ _ _ publishable rest converted] at ran; cases ran
        | ok headers =>
          simp only [exec_step_publishable _ _ _ publishable rest converted, Prod.mk.injEq,
            Except.ok.injEq] at ran
          obtain ⟨rfl, rfl⟩ := ran
          exact .publishable publishable converted
      | brokerDetails | brokerTopicDetails =>
        have notImplemented : m.kind = .brokerDetails ∨ m.kind = .brokerTopicDetails := by
          simp [kind]
        simp only [exec_step_brokerDetails _ _ _ notImplemented, Prod.mk.injEq,
          Except.ok.injEq] at ran
        obtain ⟨rfl, rfl⟩ := ran
        exact .notImplemented notImplemented
      | unsupported shown =>
        simp only [exec_step_unsupported _ _ _ kind, Prod.mk.injEq, Except.ok.injEq] at ran
        obtain ⟨rfl, rfl⟩ := ran
        exact .unsupported kind
  | publishing m headers made rest =>
    rw [exec_step_publishing] at ran
    cases sent : exec (publishOne m headers w.publishTimeout.toValue) s with
    | mk r s₁ =>
      rw [sent] at ran
      cases r with
      | error f => cases ran
      | ok status =>
        dsimp only at ran
        cases zero : status.isZero
        · rw [if_neg (by simp [zero])] at ran
          cases retry : w.policy.shouldRetry (.int ((made + 1 : Nat) : Int)) with
          | error f => rw [retry] at ran; cases ran
          | ok again =>
            rw [retry] at ran
            cases again with
            | false =>
              simp only [Prod.mk.injEq, Except.ok.injEq] at ran
              obtain ⟨rfl, rfl⟩ := ran
              exact .gaveUp sent zero retry
            | true =>
              cases pause : w.policy.delay (.int ((made + 1 : Nat) : Int)) with
              | error f => rw [pause] at ran; cases ran
              | ok pause' =>
                rw [pause] at ran
                dsimp only at ran
                cases takes : w.clock.refusal? pause' with
                | some f => rw [takes] at ran; cases ran
                | none =>
                  simp only [takes, Prod.mk.injEq, Except.ok.injEq] at ran
                  obtain ⟨rfl, rfl⟩ := ran
                  exact .retried sent zero retry pause takes
        · simp only [zero, ↓reduceIte, Prod.mk.injEq, Except.ok.injEq] at ran
          obtain ⟨rfl, rfl⟩ := ran
          exact .delivered sent zero
  | requeueing m rest =>
    simp only [exec_step_requeueing, Prod.mk.injEq, Except.ok.injEq] at ran
    obtain ⟨rfl, rfl⟩ := ran
    exact .requeued
  | stopped =>
    simp only [exec_step_stopped, Prod.mk.injEq, Except.ok.injEq] at ran
    obtain ⟨rfl, rfl⟩ := ran
    exact .stopped

/-! ### Idle waits -/

/-- The world once an idle wait is recorded. -/
def noted (w : Worker) (s : World) : World :=
  { s with trace := s.trace ++ [.idle w.settings.publishIdleIntervalSec] }

/-- How an idle wait goes: it is recorded; then, unless the stop signal is set, the
next idle step is taken, and with none left the wait only passes. -/
inductive Waited (w : Worker) (s : World) : World → Prop
  | signalled (stop : s.stopSet = true) : Waited w s (w.noted s)
  | exhausted (going : s.stopSet = false) (none : s.idle = []) : Waited w s (w.noted s)
  | offered {batch : Value} {rest : List IdleStep} {msgs : List Message} {n : Nat} {q : WorkQueue}
      (going : s.stopSet = false) (next : s.idle = .offer batch :: rest)
      (read : (batch.iterate >>= fun docs => docs.mapM Message.ofDocument) = .ok msgs)
      (taken : s.queue.enqueue msgs = .ok (n, q)) :
      Waited w s { w.noted s with idle := rest, queue := q }
  | refused {batch : Value} {rest : List IdleStep} {msgs : List Message} {f : Fault}
      (going : s.stopSet = false) (next : s.idle = .offer batch :: rest)
      (read : (batch.iterate >>= fun docs => docs.mapM Message.ofDocument) = .ok msgs)
      (refusal : s.queue.enqueue msgs = .error f) :
      Waited w s
        { w.noted s with
          idle := rest
          log := if WorkQueue.isRefusal f then s.log ++ [LogLine.err f.message] else s.log
          trace := (w.noted s).trace ++ [.idleEnqueueError f] }
  | unreadable {batch : Value} {rest : List IdleStep} {f : Fault}
      (going : s.stopSet = false) (next : s.idle = .offer batch :: rest)
      (unread : (batch.iterate >>= fun docs => docs.mapM Message.ofDocument) = .error f) :
      Waited w s
        { w.noted s with idle := rest, trace := (w.noted s).trace ++ [.idleEnqueueError f] }
  | released {rest : List IdleStep} (going : s.stopSet = false)
      (next : s.idle = .releaseLock :: rest) :
      Waited w s { w.noted s with idle := rest, queue := { s.queue with held := false } }
  | signalSet {rest : List IdleStep} (going : s.stopSet = false)
      (next : s.idle = .setStop :: rest) :
      Waited w s { w.noted s with idle := rest, stopSet := true }
  | halted {rest : List IdleStep} (going : s.stopSet = false) (next : s.idle = .halt :: rest) :
      Waited w s { w.noted s with idle := rest, stopSet := true,
                                  trace := (w.noted s).trace ++ [.idleStop] }

/-- An idle wait always succeeds, and goes one of the ways `Waited` lists. -/
theorem exec_idleWait (w : Worker) (s : World) :
    ∃ s', exec w.idleWait s = (.ok (), s') ∧ Waited w s s' := by
  unfold idleWait
  simp only [exec_bind, exec_record, exec_get]
  cases stop : s.stopSet
  case true => exact ⟨_, by simp [stop, noted], .signalled stop⟩
  case false =>
    simp only [Bool.false_eq_true, ↓reduceIte, exec_bind, exec_get]
    cases next : s.idle with
    | nil => exact ⟨_, by simp [next, noted, stop], .exhausted stop next⟩
    | cons step rest =>
      cases step with
      | releaseLock => exact ⟨_, by simp [exec_bind, noted, stop], .released stop next⟩
      | setStop => exact ⟨_, by simp [exec_bind, noted], .signalSet stop next⟩
      | halt => exact ⟨_, by simp [exec_bind, noted], .halted stop next⟩
      | offer batch =>
        simp only [exec_bind, exec_modify, exec_attempt, exec_ofResult]
        cases iterated : batch.iterate with
        | error f =>
          have unread : (batch.iterate >>= fun docs => docs.mapM Message.ofDocument) =
              .error f := by simp [iterated, bind, Except.bind]
          exact ⟨_, by simp [noted, stop], .unreadable stop next unread⟩
        | ok docs =>
          cases read : docs.mapM Message.ofDocument with
          | error f =>
            have unread : (batch.iterate >>= fun docs => docs.mapM Message.ofDocument) =
                .error f := by simp [iterated, read, bind, Except.bind]
            exact ⟨_, by simp [read, noted, stop], .unreadable stop next unread⟩
          | ok msgs =>
            have readAll : (batch.iterate >>= fun docs => docs.mapM Message.ofDocument) =
                .ok msgs := by simp [iterated, read, bind, Except.bind]
            simp only [read, exec_enqueue]
            cases taken : s.queue.enqueue msgs with
            | ok r =>
              obtain ⟨n, q⟩ := r
              exact ⟨_, by simp [noted, stop], .offered stop next readAll taken⟩
            | error f =>
              refine ⟨_, ?_, .refused stop next readAll taken⟩
              cases refusal : WorkQueue.isRefusal f <;> simp [noted, stop, refusal]

/-! ### Whole runs -/

/-- Connecting answers whether a producer was created, and only adds log lines and
events, the same ones from every world. -/
theorem exec_connect (w : Worker) (factory : Factory) :
    ∃ created lines events, ∀ s : World, exec (w.connect factory) s =
      (.ok created, { s with log := s.log ++ lines, trace := s.trace ++ events }) := by
  unfold connect
  cases brokers : w.settings.hasBrokers
  · exact ⟨false, _, [], fun s => by simp [exec_map]; rfl⟩
  · cases factory with
    | noConnection => exact ⟨false, _, [], fun s => by simp [exec_map]; rfl⟩
    | works =>
      cases ready : w.settings.producerSettings with
      | error f => exact ⟨false, _, [], fun s => by simp [exec_map]; rfl⟩
      | ok cfg => exact ⟨true, [], _, fun s => by simp [exec_map]; rfl⟩
    | brokerFailure =>
      cases ready : w.settings.producerSettings with
      | error f => exact ⟨false, _, [], fun s => by simp [exec_map]; rfl⟩
      | ok cfg => exact ⟨false, _, _, fun s => by simp [exec_bind, exec_map]; exact ⟨rfl, rfl⟩⟩

/-- The world after a run's final flush answered that `remaining` messages stay
undelivered: the flush recorded, and a warning when there are any. -/
def closed (w : Worker) (t : World) (remaining : Nat) : World :=
  { t with
    trace := t.trace ++ [.flush w.publishTimeout.toValue remaining]
    log := if remaining > 0 then
        t.log ++ [LogLine.warn (w.label ++ " - exiting with " ++ toString remaining ++
          " messages still in producer queue")]
      else t.log }

/-- A run without a producer ends where connecting left it. -/
theorem exec_run_uncreated {w : Worker} {factory : Factory} {s s₁ : World}
    (connected : exec (w.connect factory) s = (.ok false, s₁)) :
    exec (w.run factory) s = (.ok (), s₁) := by
  unfold run
  simp [exec_bind, connected]

/-- A run that created its producer ends as its final flush decides: with the flush's
error, or with what its loop answered, in the world its loop left, closed. -/
theorem exec_run_created {w : Worker} {factory : Factory} {s s₁ : World}
    (connected : exec (w.connect factory) s = (.ok true, s₁)) :
    exec (w.run factory) s =
      match (exec (w.loop w.idleWait (w.stepBudget s₁) .draining) s₁).2.producer.flush with
      | (.error f, p) =>
        (.error f, { (exec (w.loop w.idleWait (w.stepBudget s₁) .draining) s₁).2 with
          producer := p })
      | (.ok remaining, p) =>
        ((exec (w.loop w.idleWait (w.stepBudget s₁) .draining) s₁).1,
          w.closed { (exec (w.loop w.idleWait (w.stepBudget s₁) .draining) s₁).2 with
            producer := p } remaining) := by
  unfold run
  simp only [exec_bind, connected, Bool.not_true, Bool.false_eq_true, ↓reduceIte, exec_get,
    exec_attempt, exec_modify]
  generalize exec (w.loop w.idleWait (w.stepBudget s₁) .draining) s₁ = looped
  obtain ⟨outcome, t⟩ := looped
  obtain ⟨flushed, p⟩ := t.producer.flush
  cases flushed with
  | error f => rfl
  | ok remaining =>
    simp only [exec_ofResult, exec_record]
    by_cases leftover : remaining > 0
    · simp [leftover, exec_bind, closed]
    · simp [leftover, closed]

/-- A run that created its producer and returns normally: its loop returned normally,
and the final flush left the counters as the loop left them. -/
theorem exec_run_ended {w : Worker} {factory : Factory} {s s₁ : World}
    (connected : exec (w.connect factory) s = (.ok true, s₁))
    (ended : (exec (w.run factory) s).1 = .ok ()) :
    (exec (w.loop w.idleWait (w.stepBudget s₁) .draining) s₁).1 = .ok () ∧
      (exec (w.run factory) s).2.metrics =
        (exec (w.loop w.idleWait (w.stepBudget s₁) .draining) s₁).2.metrics := by
  rw [exec_run_created connected] at ended ⊢
  generalize exec (w.loop w.idleWait (w.stepBudget s₁) .draining) s₁ = looped at ended ⊢
  obtain ⟨outcome, t⟩ := looped
  dsimp only at ended ⊢
  generalize t.producer.flush = flushing at ended ⊢
  obtain ⟨flushed, p⟩ := flushing
  -- a flush that raised would have ended the run with its error
  cases flushed with
  | error f => cases ended
  | ok remaining => exact ⟨ended, rfl⟩

end Worker

end PublishPool
