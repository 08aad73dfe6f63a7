import PublishPool.Proofs.Conservation

/-!
What becomes of each message a worker drains.

A worker holds the messages of its current batch (`Worker.Phase.held`) and settles
them front to back: each is published, dropped for a reason, or, for a Shutdown
message, handled by setting the stop signal and offering a copy back to the queue.
`Worker.Move.settled` reads off a move which held messages it settled and how.

Main statement, `Worker.Move.fates`: under every move the worker makes,

* the messages held before it, followed by those it drained, are the ones it settled
  followed by the ones held after it, so nothing is skipped, reordered or settled
  twice, and it drains only when it holds nothing;
* its counters grow by exactly its fates: one published per message published and,
  for each reason, one drop per message dropped for it;
* only a Data or Sensitive message is published or given up on after its attempts,
  and only a Shutdown message is handled;
* the stop signal, once set, stays set, and the worker sets it when it takes a
  Shutdown message; a stopped worker stays stopped.
-/

namespace PublishPool

open Act

namespace Worker

/-- What became of a message a worker drained. -/
inductive Fate where
  | published
  | dropped (reason : DropReason)
  /-- A Shutdown message: the stop signal set and a copy offered back to the queue. -/
  | handled
  deriving DecidableEq

/-- A fate that settles a message before any Shutdown message is handled: published,
given up on after the last attempt, or dropped with a broker-detail request or a
message of a kind outside the five. -/
def Fate.Plain (f : Fate) : Prop :=
  f = .published ∨ f = .dropped .retriesExhausted ∨ f = .dropped .notImplemented ∨
    f = .dropped .unsupportedKind

/-- Why a worker drops a batch from a message it neither publishes nor handles: a
broker-detail request is not implemented, any other such kind is unsupported. -/
def batchDropReason (m : Message) : DropReason :=
  match m.kind with
  | .unsupported _ => .unsupportedKind
  | _ => .notImplemented

/-- A fate suits its message: only Data and Sensitive messages are published or given
up on, and only Shutdown messages are handled. -/
def Fate.Fits : Fate → Message → Prop
  | .published, m | .dropped .retriesExhausted, m => m.kind = .data ∨ m.kind = .sensitive
  | .handled, m => m.kind = .shutdown
  | _, _ => True

/-- The messages a worker holds in a phase, drained and not yet settled, in order. -/
@[simp] def Phase.held : Phase → List Message
  | .handling work => work
  | .publishing m _ _ work => m :: work
  | .requeueing m work => m :: work
  | _ => []

/-- The message a worker is busy with is of the kind its phase is for. -/
@[simp] def Phase.Fitting : Phase → Prop
  | .publishing m _ _ _ => m.kind = .data ∨ m.kind = .sensitive
  | .requeueing m _ => m.kind = .shutdown
  | _ => True

/-- The held messages a move settled, in order, each with its fate. A publish attempt
settles its message when the worker moves on: published when the count of published
messages grew, given up on otherwise. -/
def Move.settled (mv : Move) : List (Message × Fate) :=
  match mv.phase, mv.next with
  | .handling (m :: rest), .draining => (m :: rest).map (·, .dropped (batchDropReason m))
  | .publishing m _ _ _, .handling _ =>
    [(m, if mv.before.metrics.published < mv.after.metrics.published then .published
      else .dropped .retriesExhausted)]
  | .requeueing m rest, .stopped => (m, .handled) :: rest.map (·, .dropped .shutdownRemainder)
  | _, _ => []

/-- How many of the messages a move settled met a fate. -/
def Move.tally (mv : Move) (f : Fate) : Nat := mv.settled.countP (·.2 = f)

/-- What one move does to the messages its worker holds. -/
structure Move.Fates (mv : Move) : Prop where
  held : mv.phase.held ++ mv.taken = mv.settled.map Prod.fst ++ mv.next.held
  drains : mv.taken = [] ∨ mv.phase.held = [] ∧ mv.settled = []
  published : mv.after.metrics.published = mv.before.metrics.published + mv.tally .published
  dropped : ∀ r, mv.after.metrics.droppedFor r =
    mv.before.metrics.droppedFor r + mv.tally (.dropped r)
  fits : ∀ p ∈ mv.settled, p.2.Fits p.1
  fitting : mv.next.Fitting
  stays : mv.before.stopSet = true → mv.after.stopSet = true
  signals : ∀ m rest, mv.next = .requeueing m rest → mv.after.stopSet = true
  stopped : mv.phase = .stopped → mv.next = .stopped ∧ mv.settled = []

/-- A move's settled messages are plain, or they are a handled Shutdown message
followed by the rest of its batch, dropped as its remainder, and the worker stops. -/
theorem Move.settled_shape (mv : Move) :
    (∀ p ∈ mv.settled, p.2.Plain) ∨ ∃ m rest, mv.phase = .requeueing m rest ∧
      mv.next = .stopped ∧
      mv.settled = (m, .handled) :: rest.map (·, .dropped .shutdownRemainder) := by
  obtain ⟨s, ph, s', next⟩ := mv
  unfold Move.settled
  dsimp only
  split
  · left
    rename_i m _
    simp only [List.mem_map, forall_exists_index, and_imp]
    rintro _ _ _ rfl
    unfold batchDropReason Fate.Plain
    split <;> simp
  · left; simp only [List.mem_singleton]; rintro p rfl; split <;> simp [Fate.Plain]
  · right; exact ⟨_, _, rfl, rfl, rfl⟩
  · left; simp

/-- Counting fates of messages all settled one way. -/
theorem countP_fate (msgs : List Message) (f g : Fate) :
    (msgs.map (·, g)).countP (·.2 = f) = if g = f then msgs.length else 0 := by
  rw [List.countP_map]
  by_cases same : g = f <;> simp [same, Function.comp_def]

/-! ### What one move settles -/

variable {w : Worker}

@[simp] theorem requeued_stopSet (s : World) (m : Message) :
    (w.requeued s m).stopSet = s.stopSet := by
  unfold requeued; split <;> rfl

/-- A batch dropped from its first message settles all of it with that message's
reason, whatever the step logged. -/
theorem batch_dropped_fates {s : World} {m : Message} {rest : List Message}
    {reason : DropReason} (given : batchDropReason m = reason) (log : List LogLine) :
    Move.Fates ⟨s, .handling (m :: rest), w.dropped { s with log } reason (1 + rest.length),
      .draining⟩ := by
  have settled : ∀ after : World,
      Move.settled ⟨s, .handling (m :: rest), after, .draining⟩ =
        (m :: rest).map (·, .dropped reason) := fun _ => by simp [Move.settled, given]
  refine ⟨?_, ?_, ?_, ?_, ?_, ?_, ?_, ?_, ?_⟩
  · simp [settled, Function.comp_def]
  · simp
  · simp [Move.tally, settled, dropped]
  · intro r
    simp only [Move.tally, settled, countP_fate, dropped, Metrics.droppedFor_recordDrop,
      Fate.dropped.injEq, List.length_cons]
    by_cases same : r = reason
    · subst same; simp; omega
    · simp [same, Ne.symm same]
  · -- neither reason is one a message must be published for
    have either : reason = .notImplemented ∨ reason = .unsupportedKind := by
      rw [← given]; unfold batchDropReason; split <;> simp
    rcases either with rfl | rfl <;> simp [settled, Fate.Fits]
  · simp
  · simp [dropped]
  · simp
  · simp

/-- Every move a worker makes from a phase that fits its message settles messages as
`Move.Fates` says. -/
theorem Move.fates {mv : Move} (stepped : mv.Made w) (fitting : mv.phase.Fitting) :
    mv.Fates := by
  obtain ⟨s, ph, s', next⟩ := mv
  have step : Stepped w s ph s' next := Stepped.of_exec stepped
  cases step with
  | @drained batch q taken =>
    by_cases empty : batch.isEmpty <;>
      refine ⟨?_, ?_, ?_, ?_, ?_, ?_, ?_, ?_, ?_⟩ <;>
      simp [empty, Move.settled, Move.tally, List.isEmpty_iff.mp]
  | busy | stops | waits | finishes | stopped =>
    refine ⟨?_, ?_, ?_, ?_, ?_, ?_, ?_, ?_, ?_⟩ <;> simp [Move.settled, Move.tally]
  | shutdown kind | publishable kind =>
    -- a Shutdown message stays held until its copy goes back
    refine ⟨?_, ?_, ?_, ?_, ?_, ?_, ?_, ?_, ?_⟩ <;> simp [Move.settled, Move.tally, kind]
  | @notImplemented m rest kind =>
    have reason : batchDropReason m = .notImplemented := by
      rcases kind with kind | kind <;> simp [batchDropReason, kind]
    exact batch_dropped_fates reason _
  | @unsupported m rest shown kind =>
    have reason : batchDropReason m = .unsupportedKind := by simp [batchDropReason, kind]
    exact batch_dropped_fates reason _
  | @delivered s₁ m headers made rest status sent zero =>
    -- the message is published
    have quiet := Untouched.of_sent sent
    have settled : ∀ after : World,
        Move.settled ⟨s, .publishing m headers made rest, after, .handling rest⟩ =
          [(m, if s.metrics.published < after.metrics.published then .published
            else .dropped .retriesExhausted)] := fun _ => rfl
    refine ⟨?_, ?_, ?_, ?_, ?_, ?_, ?_, ?_, ?_⟩ <;>
      simp_all [Move.tally, quiet.metrics, quiet.stop, Fate.Fits, Metrics.droppedFor]
  | @gaveUp s₁ m headers made rest status sent failed last =>
    -- the policy allows no more attempts: the message is given up on
    have quiet := Untouched.of_sent sent
    have counted : (w.gaveUp (w.failedAttempt s₁ m status (made + 1)) m (made + 1)).metrics =
        ({ s.metrics with publishFailures := s.metrics.publishFailures + 1 } : Metrics).recordDrop
          .retriesExhausted 1 := by
      rw [← quiet.metrics]
      rfl
    have settled : Move.settled ⟨s, .publishing m headers made rest,
        w.gaveUp (w.failedAttempt s₁ m status (made + 1)) m (made + 1), .handling rest⟩ =
        [(m, .dropped .retriesExhausted)] := by
      simp [Move.settled, counted]
    refine ⟨?_, ?_, ?_, ?_, ?_, ?_, ?_, ?_, ?_⟩
    · simp [settled]
    · simp
    · simp [settled, Move.tally, counted]
    · intro r
      simp only [Move.tally, settled, counted, Metrics.droppedFor_recordDrop]
      by_cases same : r = .retriesExhausted
      · subst same
        simp [Metrics.droppedFor]
      · simp [same, Metrics.droppedFor, Ne.symm same]
    · simpa [settled, Fate.Fits] using fitting
    · simp
    · simp [gaveUp, failedAttempt, dropped, quiet.stop]
    · simp
    · simp
  | @retried s₁ m headers made rest status pause sent failed again delay takes =>
    -- tried again later: still held
    have quiet := Untouched.of_sent sent
    refine ⟨?_, ?_, ?_, ?_, ?_, ?_, ?_, ?_, ?_⟩ <;>
      simp_all [Move.settled, Move.tally, failedAttempt, quiet.metrics, quiet.stop,
        Metrics.droppedFor]
  | @requeued m rest =>
    have settled : ∀ after : World, Move.settled ⟨s, .requeueing m rest, after, .stopped⟩ =
        (m, .handled) :: rest.map (·, .dropped .shutdownRemainder) := fun _ => rfl
    cases rest with
    | nil =>
      refine ⟨?_, ?_, ?_, ?_, ?_, ?_, ?_, ?_, ?_⟩ <;>
        simp_all [Move.tally, Fate.Fits]
    | cons m' rest' =>
      -- what was left of the batch is dropped with it
      refine ⟨?_, ?_, ?_, ?_, ?_, ?_, ?_, ?_, ?_⟩
      · simp [settled, Function.comp_def]
      · simp
      · simp only [settled, Move.tally, List.countP_cons, countP_fate]
        simp [dropped]
      · intro r
        simp only [Move.tally, settled, List.countP_cons, countP_fate, dropped, requeued_metrics,
          List.isEmpty_cons, Bool.false_eq_true, ↓reduceIte]
        rw [Metrics.droppedFor_recordDrop]
        by_cases same : r = .shutdownRemainder
        · subst same; simp
        · simp [same, Ne.symm same]
      · simpa [settled, Fate.Fits] using fitting
      · simp
      · simp [dropped]
      · simp
      · simp

end Worker

end PublishPool
