import PublishPool.Proofs.WorkerSteps

/-!
A worker accounts for every message it drains.

`Worker.Interleaved` is a run of one worker among other parties: the worker's own
steps, each recorded as a `Worker.Move`, and between any two of them any change by
others that leaves the worker's counters and warnings alone: messages enqueued, the
queue drained, the lock taken or given back, the stop signal set. Its idle wait
only lets time pass; what happens meanwhile is such a change.

A drained message is held by the worker (`Worker.Phase.pending`) until it is
published, dropped for a reason, or, for a Shutdown message, handled by putting a
copy back. Main statement, `worker_counts_each_drained_message`: over a run that
ends, the messages drained are the messages published, plus those dropped, plus the
one Shutdown handled if there was one; the queue changes under the worker's steps
only by the batches it drains and by that Shutdown's copy when the queue took it;
and each reason's count is the sum of the counts of its drop warnings. A synchronous
run of `Worker.run` that returns normally is such a run (`loop_interleaved`), and
`run_counts_each_drained_message` reads the count off the counters it ends with.
-/

namespace PublishPool

open Act

/-! ### Drops -/

/-- The number of messages dropped, all reasons together. -/
def dropTotal (drops : List (DropReason × Nat)) : Nat := (drops.map (·.2)).foldr (· + ·) 0

/-- The number of messages dropped for one reason. -/
def dropCount (drops : List (DropReason × Nat)) (reason : DropReason) : Nat :=
  ((drops.filter (·.1 == reason)).map (·.2)).foldr (· + ·) 0

@[simp] theorem dropTotal_nil : dropTotal [] = 0 := rfl

@[simp] theorem dropTotal_cons (d : DropReason × Nat) (drops : List (DropReason × Nat)) :
    dropTotal (d :: drops) = d.2 + dropTotal drops := rfl

@[simp] theorem dropCount_nil (reason : DropReason) : dropCount [] reason = 0 := rfl

@[simp] theorem dropCount_cons (d : DropReason × Nat) (drops : List (DropReason × Nat))
    (reason : DropReason) :
    dropCount (d :: drops) reason = (if reason = d.1 then d.2 else 0) + dropCount drops reason := by
  unfold dropCount
  by_cases same : reason = d.1
  · simp [same]
  · have skip : (d.1 == reason) = false := by simp [Ne.symm same]
    simp [skip, same]

theorem dropTotal_append (drops drops' : List (DropReason × Nat)) :
    dropTotal (drops ++ drops') = dropTotal drops + dropTotal drops' :=
  Metrics.total_append drops drops'

namespace Metrics

variable {m : Metrics} {drops : List (DropReason × Nat)}

/-- Records drops in order. -/
def recordDrops (m : Metrics) (drops : List (DropReason × Nat)) : Metrics :=
  drops.foldl (fun m d => m.recordDrop d.1 d.2) m

@[simp] theorem recordDrops_nil (m : Metrics) : m.recordDrops [] = m := rfl

@[simp] theorem recordDrops_cons (m : Metrics) (d : DropReason × Nat)
    (drops : List (DropReason × Nat)) :
    m.recordDrops (d :: drops) = (m.recordDrop d.1 d.2).recordDrops drops := rfl

theorem recordDrops_append (m : Metrics) (drops drops' : List (DropReason × Nat)) :
    m.recordDrops (drops ++ drops') = (m.recordDrops drops).recordDrops drops' :=
  List.foldl_append

/-- The drops recorded depend on the drops already recorded only. -/
theorem recordDrop_dropped_congr {m m' : Metrics} (same : m.dropped = m'.dropped)
    (r : DropReason) (n : Nat) : (m.recordDrop r n).dropped = (m'.recordDrop r n).dropped := by
  unfold recordDrop
  simp only [same]
  split
  · exact same
  · split <;> rfl

theorem recordDrops_dropped_congr {m m' : Metrics} (same : m.dropped = m'.dropped) :
    (m.recordDrops drops).dropped = (m'.recordDrops drops).dropped := by
  induction drops generalizing m m' with
  | nil => exact same
  | cons d rest ih => exact ih (recordDrop_dropped_congr same d.1 d.2)

theorem totalDropped_recordDrops (keyed : m.Keyed) :
    (m.recordDrops drops).totalDropped = m.totalDropped + dropTotal drops := by
  induction drops generalizing m with
  | nil => rfl
  | cons d rest ih =>
    rw [recordDrops_cons, ih (keyed_recordDrop keyed d.1 d.2), totalDropped_recordDrop keyed,
      dropTotal_cons]
    omega

theorem droppedFor_recordDrops (reason : DropReason) :
    (m.recordDrops drops).droppedFor reason = m.droppedFor reason + dropCount drops reason := by
  induction drops generalizing m with
  | nil => rfl
  | cons d rest ih =>
    rw [recordDrops_cons, ih, droppedFor_recordDrop, dropCount_cons]
    omega

/-- Counting looks at the drops recorded only. -/
theorem totalDropped_congr {m m' : Metrics} (same : m.dropped = m'.dropped) :
    m.totalDropped = m'.totalDropped := by
  unfold totalDropped; rw [same]

theorem droppedFor_congr {m m' : Metrics} (same : m.dropped = m'.dropped) (reason : DropReason) :
    m.droppedFor reason = m'.droppedFor reason := by
  unfold droppedFor; rw [same]

end Metrics

namespace Worker

/-- The warning of each drop, in order. -/
def dropLines (label : String) (drops : List (DropReason × Nat)) : List LogLine :=
  drops.map fun d => LogLine.warn (dropText label d.1 d.2)

@[simp] theorem dropLines_nil (label : String) : dropLines label [] = [] := rfl

theorem dropLines_append (label : String) (drops drops' : List (DropReason × Nat)) :
    dropLines label (drops ++ drops') = dropLines label drops ++ dropLines label drops' :=
  List.map_append

/-! ### Runs among other parties -/

/-- One step of the worker's loop, as it happened: the world and phase before it
and after it. -/
structure Move where
  before : World
  phase : Phase
  after : World
  next : Phase

/-- The move is one the worker's step makes. Its idle wait lets time pass only. -/
def Move.Made (w : Worker) (mv : Move) : Prop :=
  exec (w.step (pure ()) mv.phase) mv.before = (.ok mv.next, mv.after)

/-- A change made by others between two steps of the worker: it may enqueue, drain,
take or give back the lock, set the stop signal, but leaves the worker's counters
and the warnings logged alone. -/
structure Aside (s s' : World) : Prop where
  metrics : s'.metrics = s.metrics
  warnings : warnings s'.log = warnings s.log

/-- A run of a worker among other parties, from a world and phase to a world and
phase: the worker's steps, in order, with changes by others between any two. -/
inductive Interleaved (w : Worker) : World → Phase → List Move → World → Phase → Prop
  | done (s : World) (ph : Phase) : Interleaved w s ph [] s ph
  | step {mv : Move} {moves : List Move} {t : World} {last : Phase} :
      mv.Made w → Interleaved w mv.after mv.next moves t last →
      Interleaved w mv.before mv.phase (mv :: moves) t last
  | aside {s s' : World} {ph : Phase} {moves : List Move} {t : World} {last : Phase} :
      Aside s s' → Interleaved w s' ph moves t last → Interleaved w s ph moves t last

/-- The messages a worker holds in a phase: drained, and not yet published, dropped
or handled. -/
@[simp] def Phase.pending : Phase → Nat
  | .handling work => work.length
  | .publishing _ _ _ work => work.length + 1
  | .requeueing _ work => work.length + 1
  | _ => 0

/-- The messages a move drained from the queue. -/
@[simp] def Move.taken (mv : Move) : List Message :=
  match mv.phase, mv.next with
  | .draining, .handling batch => batch
  | _, _ => []

/-- The Shutdown message a move handled by offering its copy back to the queue. -/
@[simp] def Move.handled (mv : Move) : List Message :=
  match mv.phase with
  | .requeueing m _ => [m]
  | _ => []

/-- The messages a move put on the queue: the handled Shutdown message's copy, when
the queue took it. -/
@[simp] def Move.put (mv : Move) : List Message :=
  match mv.phase with
  | .requeueing m _ =>
    match mv.before.queue.enqueue [m] with
    | .ok _ => [m]
    | .error _ => []
  | _ => []

/-- What the worker's steps did between two points of a run, counted: `published`
messages published and `drops` recorded, each with its warning; the messages they
drained (`taken`) and those held before balance those held after, published,
dropped and handled. -/
structure Ledger (w : Worker) (s : World) (ph : Phase) (t : World) (last : Phase)
    (taken handled : List Message) (published : Nat) (drops : List (DropReason × Nat)) :
    Prop where
  published_eq : t.metrics.published = s.metrics.published + published
  dropped_eq : t.metrics.dropped = (s.metrics.recordDrops drops).dropped
  warnings_eq : warnings t.log = warnings s.log ++ dropLines w.label drops
  balance : taken.length + ph.pending = last.pending + published + dropTotal drops + handled.length

/-- A worker holds only a Shutdown message to put back. -/
@[simp] def Phase.Sound : Phase → Prop
  | .requeueing m _ => m.kind = .shutdown
  | _ => True

/-- How many Shutdown messages a worker may still handle: none once stopped. -/
@[simp] def Phase.handles : Phase → Nat
  | .stopped => 0
  | _ => 1

/-- What one move did: its ledger; the queue lost what it drained and gained what it
put; a Shutdown message is the only one it may hold to put back; and once it handled
one, or stopped, it handles no more. -/
structure Move.Effect (w : Worker) (mv : Move) (published : Nat)
    (drops : List (DropReason × Nat)) : Prop
    extends Ledger w mv.before mv.phase mv.after mv.next mv.taken mv.handled published drops where
  queue : mv.before.queue.items ++ mv.put = mv.taken ++ mv.after.queue.items
  sound : mv.next.Sound
  handles : mv.handled.length + mv.next.handles ≤ mv.phase.handles

/-! ### What one move does -/

variable {w : Worker}

/-- Every move the worker makes has its effect. -/
theorem Move.effect {mv : Move} (stepped : mv.Made w) :
    ∃ published drops, mv.Effect w published drops := by
  obtain ⟨s, ph, s', next⟩ := mv
  have step : Stepped w s ph s' next := Stepped.of_exec stepped
  cases step with
  | drained taken =>
    obtain ⟨k, rfl, rfl⟩ := WorkQueue.drain_some taken
    refine ⟨0, [], ?_⟩
    by_cases empty : (s.queue.items.take k).isEmpty
    · -- an empty batch: the queue is as it was
      have none_taken : s.queue.items.take k = [] := List.isEmpty_iff.mp empty
      have all_left : s.queue.items.drop k = s.queue.items := by
        calc s.queue.items.drop k = s.queue.items.take k ++ s.queue.items.drop k := by
              rw [none_taken, List.nil_append]
          _ = s.queue.items := List.take_append_drop k _
      refine ⟨⟨?_, ?_, ?_, ?_⟩, ?_, ?_, ?_⟩ <;> simp [none_taken, all_left]
    · refine ⟨⟨?_, ?_, ?_, ?_⟩, ?_, ?_, ?_⟩ <;> simp [empty]
  | busy | stops | waits | finishes | publishable | stopped =>
    exact ⟨0, [], by refine ⟨⟨?_, ?_, ?_, ?_⟩, ?_, ?_, ?_⟩ <;> simp⟩
  | shutdown kind => exact ⟨0, [], by refine ⟨⟨?_, ?_, ?_, ?_⟩, ?_, ?_, ?_⟩ <;> simp [kind]⟩
  | @notImplemented m rest kind =>
    -- the rest of the batch goes with it, unpublished
    refine ⟨0, [(.notImplemented, 1 + rest.length)], ?_⟩
    refine ⟨⟨?_, ?_, ?_, ?_⟩, ?_, ?_, ?_⟩ <;> simp [dropped, dropLines]
    omega
  | @unsupported m rest shown kind =>
    -- logged as an error, and dropped with the rest of the batch
    refine ⟨0, [(.unsupportedKind, 1 + rest.length)], ?_⟩
    refine ⟨⟨?_, ?_, ?_, ?_⟩, ?_, ?_, ?_⟩ <;> simp [dropped, dropLines]
    omega
  | @delivered s₁ m headers made rest status sent zero =>
    have quiet := Untouched.of_sent sent
    refine ⟨1, [], ?_⟩
    refine ⟨⟨?_, ?_, ?_, ?_⟩, ?_, ?_, ?_⟩ <;> simp [quiet.metrics, quiet.warnings, quiet.items]
  | @gaveUp s₁ m headers made rest status sent failed last =>
    -- the policy allows no more attempts: the message is dropped
    have quiet := Untouched.of_sent sent
    refine ⟨0, [(.retriesExhausted, 1)], ?_⟩
    refine ⟨⟨?_, ?_, ?_, ?_⟩, ?_, ?_, ?_⟩
    · simp [gaveUp, failedAttempt, dropped, quiet.metrics]
    · exact Metrics.recordDrop_dropped_congr (by simp [failedAttempt, quiet.metrics]) _ _
    · simp [gaveUp, failedAttempt, dropped, dropLines, quiet.warnings]
    · simp
    · simp [gaveUp, failedAttempt, dropped, quiet.items]
    · trivial
    · simp
  | @retried s₁ m headers made rest status pause sent failed again delay takes =>
    -- tried again later: still held
    have quiet := Untouched.of_sent sent
    refine ⟨0, [], ?_⟩
    refine ⟨⟨?_, ?_, ?_, ?_⟩, ?_, ?_, ?_⟩ <;>
      simp [failedAttempt, quiet.metrics, quiet.warnings, quiet.items]
  | @requeued m rest =>
    cases rest with
    | nil =>
      refine ⟨0, [], ?_⟩
      cases taken : s.queue.enqueue [m] <;>
        refine ⟨⟨?_, ?_, ?_, ?_⟩, ?_, ?_, ?_⟩ <;> simp [taken, requeued_items]
    | cons m' rest' =>
      -- what was left of the batch is dropped with it
      refine ⟨0, [(.shutdownRemainder, rest'.length + 1)], ?_⟩
      cases taken : s.queue.enqueue [m] <;>
        refine ⟨⟨?_, ?_, ?_, ?_⟩, ?_, ?_, ?_⟩ <;>
        simp [taken, dropped, dropLines, requeued_items]

/-! ### Whole runs -/

variable {t u : World} {ph mid last : Phase} {moves : List Move}

theorem Ledger.refl (w : Worker) (s : World) (ph : Phase) : Ledger w s ph s ph [] [] 0 [] :=
  ⟨rfl, rfl, by simp, by simp⟩

/-- Another party's change counts nothing. -/
theorem Ledger.aside (apart : Aside s s') (ph : Phase) : Ledger w s ph s' ph [] [] 0 [] :=
  ⟨by simp [apart.metrics], by simp [apart.metrics], by simp [apart.warnings], by simp⟩

theorem Ledger.trans {taken handled taken' handled' : List Message} {p p' : Nat}
    {d d' : List (DropReason × Nat)} (first : Ledger w s ph u mid taken handled p d)
    (second : Ledger w u mid t last taken' handled' p' d') :
    Ledger w s ph t last (taken ++ taken') (handled ++ handled') (p + p') (d ++ d') where
  published_eq := by rw [second.published_eq, first.published_eq]; omega
  dropped_eq := by
    rw [second.dropped_eq, Metrics.recordDrops_append]
    exact Metrics.recordDrops_dropped_congr first.dropped_eq
  warnings_eq := by rw [second.warnings_eq, first.warnings_eq, dropLines_append, List.append_assoc]
  balance := by
    have before := first.balance
    have after := second.balance
    simp only [List.length_append, dropTotal_append]
    omega

/-- A run's ledger: every move's, one after the other. -/
theorem Interleaved.ledger (run : w.Interleaved s ph moves t last) :
    ∃ published drops,
      Ledger w s ph t last (moves.flatMap Move.taken) (moves.flatMap Move.handled) published
        drops := by
  induction run with
  | done s ph => exact ⟨0, [], Ledger.refl w s ph⟩
  | step stepped _ later =>
    obtain ⟨p, d, effect⟩ := Move.effect stepped
    obtain ⟨p', d', rest⟩ := later
    exact ⟨p + p', d ++ d', effect.toLedger.trans rest⟩
  | aside apart _ later =>
    obtain ⟨p, d, rest⟩ := later
    exact ⟨p, d, by simpa using (Ledger.aside apart _).trans rest⟩

/-- From fresh counters, a ledger from draining to stopped counts every message
drained: each was published, dropped, or handled. -/
theorem Ledger.counts {s : World} {taken handled : List Message} {published : Nat}
    {drops : List (DropReason × Nat)} (fresh : s.metrics = {})
    (ledger : Ledger w s .draining t .stopped taken handled published drops) :
    taken.length = t.metrics.published + t.metrics.totalDropped + handled.length := by
  have total : t.metrics.totalDropped = dropTotal drops := by
    rw [Metrics.totalDropped_congr ledger.dropped_eq, fresh,
      Metrics.totalDropped_recordDrops Metrics.keyed_empty]
    exact Nat.zero_add _
  have counted : t.metrics.published = published := by
    rw [ledger.published_eq, fresh]
    exact Nat.zero_add _
  -- nothing is held at either end of the run
  have balance := ledger.balance
  simp only [Phase.pending, Nat.add_zero, Nat.zero_add] at balance
  omega

/-- Under each of the worker's moves the queue loses what it drained and gains what
it put. -/
theorem Interleaved.queue (run : w.Interleaved s ph moves t last) :
    ∀ mv ∈ moves, mv.before.queue.items ++ mv.put = mv.taken ++ mv.after.queue.items := by
  induction run with
  | done => simp
  | step stepped _ later =>
    intro mv mem
    rcases List.mem_cons.mp mem with rfl | further
    · obtain ⟨_, _, effect⟩ := Move.effect stepped
      exact effect.queue
    · exact later mv further
  | aside _ _ later => exact later

/-- The message a move handles is a Shutdown message when the phase it starts from
is sound. -/
theorem Move.handled_shutdown {mv : Move} (sound : mv.phase.Sound) :
    ∀ m ∈ mv.handled, m.kind = .shutdown := by
  obtain ⟨s, ph, s', next⟩ := mv
  cases ph <;> simp_all

/-- A run from a sound phase handles only Shutdown messages. -/
theorem Interleaved.handled_shutdown (run : w.Interleaved s ph moves t last) :
    ph.Sound → ∀ m ∈ moves.flatMap Move.handled, m.kind = .shutdown := by
  induction run with
  | done => simp
  | step stepped _ later =>
    intro sound m mem
    obtain ⟨_, _, effect⟩ := Move.effect stepped
    rcases List.mem_append.mp mem with here | further
    · exact Move.handled_shutdown sound m here
    · exact later effect.sound m further
  | aside _ _ later => exact later

/-- A run handles at most as many Shutdown messages as its first phase may. -/
theorem Interleaved.handles (run : w.Interleaved s ph moves t last) :
    (moves.flatMap Move.handled).length + last.handles ≤ ph.handles := by
  induction run with
  | done => simp
  | step stepped _ later =>
    obtain ⟨_, _, effect⟩ := Move.effect stepped
    have step_bound := effect.handles
    simp only [List.flatMap_cons, List.length_append]
    omega
  | aside _ _ later => exact later

/-! ### Synchronous runs -/

/-- Enqueueing touches neither counters nor warnings. -/
theorem Aside.of_enqueue (msgs : List Message) (s : World) : Aside s (exec (enqueue msgs) s).2 := by
  rw [exec_enqueue]
  split
  · exact ⟨rfl, rfl⟩
  · split
    · exact ⟨rfl, by simp⟩
    · exact ⟨rfl, rfl⟩

/-- A synchronous run's idle wait is a change by others: it offers messages to the
queue, gives back the lock or sets the stop signal. -/
theorem idleWait_aside (w : Worker) (s : World) : Aside s (exec w.idleWait s).2 := by
  unfold idleWait
  simp only [exec_bind, exec_record, exec_get]
  by_cases stop : s.stopSet
  · simp [stop]
    exact ⟨rfl, rfl⟩
  · rw [if_neg stop]
    simp only [exec_bind, exec_get]
    split
    · exact ⟨rfl, rfl⟩
    · simp only [exec_bind, exec_modify]
      split
      · simp only [exec_bind, exec_attempt, exec_ofResult]
        rename_i rest _ batch _
        cases iterated : batch.iterate with
        | error f => exact ⟨rfl, rfl⟩
        | ok docs =>
          cases read : docs.mapM Message.ofDocument with
          | error f => simp only [read]; exact ⟨rfl, rfl⟩
          | ok msgs =>
            simp only [read]
            have offered := Aside.of_enqueue msgs
              { s with idle := rest, trace := s.trace ++ [.idle w.settings.publishIdleIntervalSec] }
            generalize exec (enqueue msgs) _ = out at offered ⊢
            obtain ⟨r, s'⟩ := out
            cases r
            · exact ⟨offered.metrics, offered.warnings⟩
            · exact ⟨offered.metrics, offered.warnings⟩
      · exact ⟨rfl, rfl⟩
      · exact ⟨rfl, rfl⟩
      · simp only [exec_bind, exec_modify, exec_record]
        exact ⟨rfl, rfl⟩

theorem Phase.isStopped_iff {ph : Phase} : ph.isStopped = true ↔ ph = .stopped := by
  cases ph <;> simp [Phase.isStopped]

/-- Away from the idle phase, a step does not wait. -/
theorem step_of_ne_idle (w : Worker) (wait : Act Unit) {ph : Phase} (busy : ph ≠ .idle) :
    w.step wait ph = w.step (pure ()) ph := by
  cases ph with
  | idle => contradiction
  | handling work => cases work <;> rfl
  | _ => rfl

theorem exec_loop_succ (w : Worker) (wait : Act Unit) (fuel : Nat) {ph : Phase}
    (going : ph.isStopped = false) (s : World) :
    exec (w.loop wait (fuel + 1) ph) s = match exec (w.step wait ph) s with
      | (.ok ph', s') => exec (w.loop wait fuel ph') s'
      | (.error f, s') => (.error f, s') := by
  simp only [loop, going, Bool.false_eq_true, ↓reduceIte, exec_bind]
  cases exec (w.step wait ph) s with
  | mk r s' => cases r <;> rfl

/-- A loop of a synchronous run that ends is a run of the worker among other
parties: its idle waits are their changes. -/
theorem loop_interleaved (w : Worker) (fuel : Nat) (ph : Phase) (s : World)
    (ended : (exec (w.loop w.idleWait fuel ph) s).1 = .ok ()) :
    ∃ moves, w.Interleaved s ph moves (exec (w.loop w.idleWait fuel ph) s).2 .stopped := by
  induction fuel generalizing ph s with
  | zero =>
    by_cases stopped : ph.isStopped
    · obtain rfl := Phase.isStopped_iff.mp stopped
      exact ⟨[], .done _ _⟩
    · simp [loop, stopped] at ended
  | succ fuel ih =>
    cases going : ph.isStopped
    case true =>
      obtain rfl := Phase.isStopped_iff.mp going
      exact ⟨[], .done _ _⟩
    case false =>
      rw [exec_loop_succ _ _ _ going] at ended ⊢
      cases stepped : exec (w.step w.idleWait ph) s with
      | mk r s' =>
        cases r with
        | error f => simp [stepped] at ended
        | ok ph' =>
          simp only [stepped] at ended ⊢
          obtain ⟨moves, rest⟩ := ih ph' s' ended
          by_cases idle : ph = .idle
          · subst idle
            rw [exec_step_idle] at stepped
            by_cases stop : s.stopSet
            · -- the stop signal was set: the loop ends without waiting
              simp only [stop, ↓reduceIte, Prod.mk.injEq, Except.ok.injEq] at stepped
              obtain ⟨rfl, rfl⟩ := stepped
              have made : Move.Made w ⟨s, .idle, s, .stopped⟩ := by
                unfold Move.Made; rw [exec_step_idle]; simp [stop]
              exact ⟨_, .step made rest⟩
            · -- the wait is a change by others, after a step that only decides to wait
              rw [if_neg stop] at stepped
              have waited := idleWait_aside w s
              generalize exec w.idleWait s = out at stepped waited
              obtain ⟨r', s₁⟩ := out
              cases r' with
              | error f => cases stepped
              | ok _ =>
                simp only [Prod.mk.injEq, Except.ok.injEq] at stepped
                obtain ⟨rfl, rfl⟩ := stepped
                have made : Move.Made w ⟨s, .idle, s, .draining⟩ := by
                  unfold Move.Made; rw [exec_step_idle, if_neg stop]; rfl
                exact ⟨_, .step made (.aside waited rest)⟩
          · rw [step_of_ne_idle w _ idle] at stepped
            have made : Move.Made w ⟨s, ph, s', ph'⟩ := stepped
            exact ⟨_, .step made rest⟩

end Worker

open Worker in
/-- A worker's run that ends, among other parties that enqueue, drain, take the lock
and set the stop signal between its steps, accounts for every message it drained:
each was published, dropped for a reason, or was the one Shutdown message it handled.
Under each of its steps the queue lost only what it drained and gained only that
Shutdown message's copy, when the queue took it; and each reason's count is the sum
of the counts of the drop warnings the worker logged for it. -/
theorem worker_counts_each_drained_message {w : Worker} {s t : World} {moves : List Move}
    (run : w.Interleaved { s with metrics := {} } .draining moves t .stopped) :
    (moves.flatMap Move.taken).length =
        t.metrics.published + t.metrics.totalDropped + (moves.flatMap Move.handled).length ∧
      (moves.flatMap Move.handled).length ≤ 1 ∧
      (∀ m ∈ moves.flatMap Move.handled, m.kind = .shutdown) ∧
      (∀ mv ∈ moves, mv.before.queue.items ++ mv.put = mv.taken ++ mv.after.queue.items) ∧
      ∃ drops, warnings t.log = warnings s.log ++ dropLines w.label drops ∧
        ∀ reason, t.metrics.droppedFor reason = dropCount drops reason := by
  obtain ⟨published, drops, ledger⟩ := run.ledger
  refine ⟨ledger.counts rfl, by simpa using run.handles, run.handled_shutdown trivial, run.queue,
    drops, ledger.warnings_eq, fun reason => ?_⟩
  rw [Metrics.droppedFor_congr ledger.dropped_eq, Metrics.droppedFor_recordDrops]
  exact Nat.zero_add _

open Worker in
/-- A worker's run from fresh counters, among other parties, over a queue of a Data
message, a Shutdown message and another Data message, drained as one batch: the first
is published, the Shutdown handled and the last dropped as the rest of its batch. So of
the messages the run's loop drained, two were published or dropped and the others were
the Shutdown it handled. -/
theorem publish_shutdown_drop_counted :
    let w : Worker := { threadNum := .int 0, label := "ktp-tid-1",
                        settings := { brokers := ["localhost:9092"] },
                        policy := { interval := .int 1 }, publishTimeout := .int 6 }
    let s : World := {
      queue := {
        lockTimeout := 10.0
        waitOverflows := false
        items := [{ kind := .data, payload := .text "a" }, { kind := .shutdown },
          { kind := .data, payload := .text "b" }] } }
    let s₁ := (exec (w.connect .works) s).2
    (exec (w.run .works) s).1 = .ok () ∧ (exec (w.run .works) s).2.metrics.published = 1 ∧
      (exec (w.run .works) s).2.metrics.totalDropped = 1 ∧
      ∃ moves t, w.Interleaved { s₁ with metrics := {} } .draining moves t .stopped ∧
        t.metrics = (exec (w.run .works) s).2.metrics ∧
        (moves.flatMap Move.taken).length = 2 + (moves.flatMap Move.handled).length := by
  intro w s s₁
  have connected : exec (w.connect .works) s = (.ok true, s₁) := Prod.ext rfl rfl
  have ended : (exec (w.run .works) s).1 = .ok () := by
    have answered : (exec (w.run .works) s).1.isOk = true := by decide +kernel
    generalize (exec (w.run .works) s).1 = r at answered
    cases r with
    | ok u => rfl
    | error f => cases answered
  have published : (exec (w.run .works) s).2.metrics.published = 1 := by decide +kernel
  have dropped : (exec (w.run .works) s).2.metrics.totalDropped = 1 := by decide +kernel
  obtain ⟨looped, counters⟩ := exec_run_ended connected ended
  obtain ⟨moves, run⟩ := loop_interleaved w _ .draining s₁ looped
  generalize (exec (w.loop w.idleWait (w.stepBudget s₁) .draining) s₁).2 = t at run counters
  -- the loop starts from the fresh counters connecting left alone
  have fresh : { s₁ with metrics := {} } = s₁ := by
    have connectedFresh : s₁.metrics = {} := rfl
    rw [← connectedFresh]
  rw [← fresh] at run
  have counted := (worker_counts_each_drained_message run).1
  rw [← counters, published, dropped] at counted
  exact ⟨ended, published, dropped, moves, t, run, counters.symm, counted⟩

open Worker in
/-- A run of a worker that created its producer and returns normally, from fresh
counters, accounts for every message its loop drained: at the end of the run each was
counted as published or dropped, but for at most one Shutdown message, which it
handled. -/
theorem run_counts_each_drained_message {w : Worker} {factory : Factory} {s s₁ : World}
    (fresh : s.metrics = {}) (connected : exec (w.connect factory) s = (.ok true, s₁))
    (ended : (exec (w.run factory) s).1 = .ok ()) :
    ∃ moves t, w.Interleaved s₁ .draining moves t .stopped ∧
      (moves.flatMap Move.taken).length = (exec (w.run factory) s).2.metrics.published +
        (exec (w.run factory) s).2.metrics.totalDropped + (moves.flatMap Move.handled).length ∧
      (moves.flatMap Move.handled).length ≤ 1 := by
  obtain ⟨looped, counters⟩ := exec_run_ended connected ended
  obtain ⟨moves, run⟩ := loop_interleaved w _ .draining s₁ looped
  obtain ⟨published, drops, ledger⟩ := run.ledger
  -- connecting only logs and records, so the loop starts from fresh counters
  have connectedFresh : s₁.metrics = {} := by
    obtain ⟨created, lines, events, connects⟩ := exec_connect w factory
    rw [connects s, Prod.mk.injEq] at connected
    rw [← connected.2]
    exact fresh
  refine ⟨moves, _, run, ?_, by simpa using run.handles⟩
  rw [counters]
  exact ledger.counts connectedFresh

end PublishPool
