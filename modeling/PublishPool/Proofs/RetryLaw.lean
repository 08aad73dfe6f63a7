import PublishPool.Proofs.Containment
import PublishPool.Proofs.Fates

/-!
The retry law of a worker's run.

The publish calls of a synchronous run fall into consecutive blocks, one for each Data
or Sensitive message the worker takes up, in the order it drained them. In a block every
attempt but the last failed, and the last is the first that delivered or after which
the policy's attempt limit is spent. Between two attempts the worker sleeps once, for
the policy's delay, and it sleeps nowhere else. Every failure is counted and logged with
its attempt number, and every block ends with its message published or dropped for
having used up its retries.

The law is the invariant `Worker.Told`, carried along the loop one step at a time. It is
proved of runs that end normally: a delay that cannot be computed cuts a block short.
-/

namespace PublishPool

open Act

/-! ### Blocks of attempts -/

/-- What the retry law watches a run do: a publish call for a message, which answered a
status, or a sleep before a retry. -/
inductive Doing where
  | publish (m : Message) (status : Value)
  | sleep (seconds : Value)

/-- The pause an event records, if it is a sleep before a retry. -/
@[simp] def Event.pause? : Event → Option Value
  | .sleep seconds => some seconds
  | _ => none

/-- The pauses a world's trace records, in order. -/
def World.sleeps (s : World) : List Value := s.trace.filterMap Event.pause?

namespace RetryPolicy

/-- The attempt limit is spent after `k` attempts: there is one, and `k` is not below it. -/
def Spent (p : RetryPolicy) (k : Nat) : Prop := ∃ n : Int, p.maxAttempts = .int n ∧ n ≤ k

/-- Attempts the policy retried, entry `j` standing for attempt `j + 1` and the pause
slept after it: each failed, left the limit unspent, and was followed by the policy's
delay. -/
def Retries (p : RetryPolicy) (retried : List (Value × Value)) : Prop :=
  ∀ j (h : j < retried.length), retried[j].1.isZero = false ∧ ¬ p.Spent (j + 1) ∧
    p.delay (.int ((j + 1 : Nat) : Int)) = .ok retried[j].2

variable {p : RetryPolicy} {k : Nat}

/-- A policy that retries has not spent its limit. -/
theorem not_spent_of_retry (again : p.shouldRetry (.int k) = .ok true) : ¬ p.Spent k := by
  rintro ⟨n, limit, reached⟩
  rw [shouldRetry_int limit] at again
  simp only [Except.ok.injEq, decide_eq_true_eq] at again
  omega

/-- With no limit or an integer one, a policy that stops retrying has spent its limit. -/
theorem spent_of_last (typed : p.maxAttempts = .none ∨ ∃ n : Int, p.maxAttempts = .int n)
    (last : p.shouldRetry (.int k) = .ok false) : p.Spent k := by
  rcases typed with unlimited | ⟨n, limit⟩
  · rw [shouldRetry_none unlimited] at last
    cases last
  · rw [shouldRetry_int limit] at last
    simp only [Except.ok.injEq, decide_eq_false_iff_not, Int.not_lt] at last
    exact ⟨n, limit, last⟩

theorem Retries.nil (p : RetryPolicy) : p.Retries [] := fun j h => absurd h (Nat.not_lt_zero j)

/-- One more failed attempt, retried after the policy's delay. -/
theorem Retries.concat {retried : List (Value × Value)} {status pause : Value}
    (earlier : p.Retries retried) (failed : status.isZero = false)
    (unspent : ¬ p.Spent (retried.length + 1))
    (delay : p.delay (.int ((retried.length + 1 : Nat) : Int)) = .ok pause) :
    p.Retries (retried ++ [(status, pause)]) := by
  intro j h
  rw [List.length_append, List.length_singleton] at h
  rcases Nat.lt_succ_iff_lt_or_eq.mp h with before | last
  · rw [List.getElem_append_left before]
    exact earlier j before
  · subst last
    rw [List.getElem_concat_length rfl]
    exact ⟨failed, unspent, delay⟩

end RetryPolicy

/-- One message's attempts in a run: the status of each attempt that was retried, with
the pause slept after it, and the status of the last attempt. -/
structure Block where
  message : Message
  retried : List (Value × Value)
  last : Value

/-- Attempts that were retried, each followed by its pause. -/
def retriedDoings (m : Message) (retried : List (Value × Value)) : List Doing :=
  retried.flatMap fun attempt => [.publish m attempt.1, .sleep attempt.2]

/-- The error line a failed attempt logs. -/
def failureLine (label : String) (m : Message) (status : Value) (attempt : Nat) : LogLine :=
  LogLine.err (label ++ " - failed to publish delivery status=" ++ status.display ++
    " attempt=" ++ toString attempt ++ " msg=" ++ m.describe)

/-- The error lines of attempts that were retried, numbered from one. -/
def retriedLines (label : String) (m : Message) (retried : List (Value × Value)) :
    List LogLine :=
  retried.mapIdx fun j attempt => failureLine label m attempt.1 (j + 1)

@[simp] theorem retriedDoings_concat (m : Message) (retried : List (Value × Value))
    (status pause : Value) :
    retriedDoings m (retried ++ [(status, pause)]) =
      retriedDoings m retried ++ [.publish m status, .sleep pause] := by
  simp [retriedDoings]

@[simp] theorem retriedLines_concat (label : String) (m : Message)
    (retried : List (Value × Value)) (status pause : Value) :
    retriedLines label m (retried ++ [(status, pause)]) =
      retriedLines label m retried ++ [failureLine label m status (retried.length + 1)] := by
  simp [retriedLines, List.mapIdx_concat]

namespace Block

/-- How many attempts the message had. -/
def attempts (b : Block) : Nat := b.retried.length + 1

/-- Whether the last attempt delivered the message. -/
def delivered (b : Block) : Bool := b.last.isZero

/-- The attempts that failed: every retried one, and the last unless it delivered. -/
def failures (b : Block) : Nat := b.retried.length + if b.delivered then 0 else 1

/-- The pauses slept between the attempts. -/
def pauses (b : Block) : List Value := b.retried.map Prod.snd

/-- The block's calls and sleeps in the order they happen. -/
def doings (b : Block) : List Doing :=
  retriedDoings b.message b.retried ++ [.publish b.message b.last]

/-- The error lines of the failed attempts, in order. -/
def failureLines (label : String) (b : Block) : List LogLine :=
  retriedLines label b.message b.retried ++
    if b.delivered then [] else [failureLine label b.message b.last b.attempts]

/-- The retry law for one message: every attempt before the last failed with the limit
unspent and was followed by the policy's delay, and the last delivered or spent the
limit. -/
structure Lawful (p : RetryPolicy) (b : Block) : Prop where
  retries : p.Retries b.retried
  ends : b.delivered = true ∨ p.Spent b.attempts

end Block

/-- The failed attempts of a run of blocks. -/
def failureTotal (blocks : List Block) : Nat := (blocks.map Block.failures).foldr (· + ·) 0

@[simp] theorem failureTotal_nil : failureTotal [] = 0 := rfl

theorem failureTotal_concat (blocks : List Block) (b : Block) :
    failureTotal (blocks ++ [b]) = failureTotal blocks + b.failures := by
  simp only [failureTotal, List.map_append, List.map_cons, List.map_nil, List.foldr_append,
    List.foldr_cons, List.foldr_nil, Nat.add_zero]
  exact Metrics.foldr_add_start _ _

/-! ### Changes the law does not watch -/

/-- A change that counts no publish, no failure and no exhausted message, sleeps no
pause, and only adds to the log. -/
structure Quiet (s s' : World) : Prop where
  published : s'.metrics.published = s.metrics.published
  failures : s'.metrics.publishFailures = s.metrics.publishFailures
  exhausted : s'.metrics.droppedFor .retriesExhausted = s.metrics.droppedFor .retriesExhausted
  sleeps : s'.sleeps = s.sleeps
  log : s.log <+: s'.log

namespace Quiet

variable {s s₁ s₂ : World}

theorem refl (s : World) : Quiet s s := ⟨rfl, rfl, rfl, rfl, List.prefix_refl _⟩

theorem trans (first : Quiet s s₁) (second : Quiet s₁ s₂) : Quiet s s₂ :=
  ⟨second.published.trans first.published, second.failures.trans first.failures,
    second.exhausted.trans first.exhausted, second.sleeps.trans first.sleeps,
    first.log.trans second.log⟩

/-- A change that keeps the counters and records no sleep. -/
theorem of_metrics (metrics : s₁.metrics = s.metrics) (sleeps : s₁.sleeps = s.sleeps)
    (log : s.log <+: s₁.log) : Quiet s s₁ :=
  ⟨by rw [metrics], by rw [metrics], by rw [metrics], sleeps, log⟩

end Quiet

theorem exec_flushAndPurge_quiet (timeout : Value) (s : World) :
    Quiet s (exec (flushAndPurge timeout) s).2 := by
  unfold flushAndPurge
  simp only [exec_bind, exec_get, exec_modify]
  obtain ⟨flushed, p⟩ := s.producer.flush
  cases flushed with
  | error f => exact .of_metrics rfl rfl (List.prefix_refl _)
  | ok remaining =>
    simp only [exec_ofResult, exec_record]
    split
    · simp only [exec_bind, exec_get, exec_record, exec_logError]
      split <;> exact .of_metrics rfl (by simp [World.sleeps]) (by simp)
    · exact .of_metrics rfl (by simp [World.sleeps]) (List.prefix_refl _)

theorem exec_produceFailed_quiet (m : Message) (text : String) (s : World) :
    Quiet s (exec (produceFailed m text) s).2 := by
  rw [exec_produceFailed]
  exact .of_metrics rfl rfl (List.prefix_append _ _)

theorem exec_awaitReport_quiet (m : Message) (d : Delivery) (timeout : Value) (s : World) :
    Quiet s (exec (awaitReport m d timeout) s).2 := by
  unfold awaitReport
  simp only [exec_bind, exec_attempt]
  refine Quiet.trans (exec_flushAndPurge_quiet timeout s) ?_
  split
  · split
    · exact exec_produceFailed_quiet m _ _
    · exact Quiet.refl _
  · exact Quiet.refl _

/-- Publishing one message records no sleep, counts nothing and only adds to the log. -/
theorem exec_publishOne_quiet (m : Message) (headers : List (List Value)) (timeout : Value)
    (s : World) : Quiet s (exec (publishOne m headers timeout) s).2 := by
  unfold publishOne
  cases m.wireForm with
  | error f => exact exec_produceFailed_quiet m _ s
  | ok written =>
    simp only [exec_bind, exec_record, exec_get, exec_modify]
    obtain ⟨p, r⟩ := s.producer.produce
    cases r with
    | error f =>
      dsimp only
      split
      · refine Quiet.trans ?_ (exec_produceFailed_quiet m _ _)
        exact .of_metrics rfl (by simp [World.sleeps]) (List.prefix_refl _)
      · exact .of_metrics rfl (by simp [World.sleeps]) (List.prefix_refl _)
    | ok d =>
      dsimp only
      split
      · simp only [exec_bind, exec_modify]
        refine Quiet.trans ?_ (exec_awaitReport_quiet m d timeout _)
        exact .of_metrics rfl (by simp [World.sleeps]) (List.prefix_refl _)
      · refine Quiet.trans ?_ (exec_awaitReport_quiet m d timeout _)
        exact .of_metrics rfl (by simp [World.sleeps]) (List.prefix_refl _)

/-- Whatever publishing one message answered, it changed nothing the law watches. -/
theorem Quiet.of_sent {m : Message} {headers : List (List Value)} {timeout : Value}
    {s s₁ : World} {r : Except Fault Value}
    (sent : exec (publishOne m headers timeout) s = (r, s₁)) : Quiet s s₁ := by
  have quiet := exec_publishOne_quiet m headers timeout s
  rwa [sent] at quiet

namespace Metrics

@[simp] theorem recordDrop_publishFailures (m : Metrics) (r : DropReason) (n : Nat) :
    (m.recordDrop r n).publishFailures = m.publishFailures := by
  unfold recordDrop; split
  · rfl
  · split <;> rfl

end Metrics

namespace Worker

/-! ### What one step does to the law's observations -/

variable {w : Worker} {s t t₁ : World}

theorem dropped_quiet {reason : DropReason} (other : reason ≠ .retriesExhausted) (n : Nat) :
    Quiet s (w.dropped s reason n) where
  published := Metrics.recordDrop_published ..
  failures := Metrics.recordDrop_publishFailures ..
  exhausted := by
    simp only [dropped, Metrics.droppedFor_recordDrop]
    simp [Ne.symm other]
  sleeps := rfl
  log := List.prefix_append _ _

theorem requeued_quiet (m : Message) : Quiet s (w.requeued s m) := by
  unfold requeued
  split
  · exact .of_metrics rfl rfl (List.prefix_refl _)
  · refine .of_metrics rfl rfl ?_
    split <;> simp

theorem Waited.quiet (waited : Waited w s t) : Quiet s t := by
  cases waited with
  | refused =>
    refine .of_metrics rfl (by simp [noted, World.sleeps]) ?_
    split <;> simp
  | _ => exact .of_metrics rfl (by simp [noted, World.sleeps]) (List.prefix_refl _)

/-- Offering a Shutdown message's copy back and dropping the rest of its batch. -/
theorem requeueing_quiet (m : Message) (rest : List Message) :
    Quiet s (if rest.isEmpty then w.requeued s m else
      w.dropped { w.requeued s m with log := (w.requeued s m).log ++
        [LogLine.err (w.label ++ " - work batch NOT empty=" ++ toString rest.length)] }
        .shutdownRemainder rest.length) := by
  split
  · exact requeued_quiet m
  · have logged : Quiet (w.requeued s m) { w.requeued s m with log := (w.requeued s m).log ++
        [LogLine.err (w.label ++ " - work batch NOT empty=" ++ toString rest.length)] } :=
      .of_metrics rfl rfl (List.prefix_append _ _)
    exact ((requeued_quiet m).trans logged).trans (dropped_quiet (by decide) _)

/-- A step of a synchronous run goes one of the ways `Stepped` lists, or waits idle. -/
theorem stepped_or_waited {ph next : Phase}
    (ran : exec (w.step w.idleWait ph) s = (.ok next, t)) :
    Stepped w s ph t next ∨ ph = .idle ∧ next = .draining ∧ Waited w s t := by
  by_cases idle : ph = .idle
  · subst idle
    rw [exec_step_idle] at ran
    by_cases stop : s.stopSet
    · simp only [stop, ↓reduceIte, Prod.mk.injEq, Except.ok.injEq] at ran
      obtain ⟨rfl, rfl⟩ := ran
      exact .inl (.stops stop)
    · obtain ⟨s', waitedOk, waited⟩ := exec_idleWait w s
      simp only [stop, Bool.false_eq_true, ↓reduceIte, waitedOk, Prod.mk.injEq,
        Except.ok.injEq] at ran
      obtain ⟨rfl, rfl⟩ := ran
      exact .inr ⟨rfl, rfl, waited⟩
  · rw [step_of_ne_idle w _ idle] at ran
    exact .inl (Stepped.of_exec ran)

/-! ### The law along a run -/

/-- The open block matches the phase: while a message is published after `made` failed
attempts, `part` holds those attempts, lawful so far; no block is open otherwise. -/
def Phase.Opens (p : RetryPolicy) : Phase → List (Value × Value) → Prop
  | .publishing m _ made _, part =>
    (m.kind = .data ∨ m.kind = .sensitive) ∧ part.length = made ∧ p.Retries part
  | _, part => part = []

/-- The calls and sleeps of the open block so far. -/
def Phase.openDoings : Phase → List (Value × Value) → List Doing
  | .publishing m _ _ _, part => retriedDoings m part
  | _, _ => []

/-- The failure lines of the open block so far. -/
def Phase.openLines (label : String) : Phase → List (Value × Value) → List LogLine
  | .publishing m _ _ _, part => retriedLines label m part
  | _, _ => []

@[simp] theorem Phase.openDoings_nil (ph : Phase) : ph.openDoings [] = [] := by
  cases ph <;> rfl

@[simp] theorem Phase.openLines_nil (label : String) (ph : Phase) : ph.openLines label [] = [] := by
  cases ph <;> rfl

/-- The publish call a move made, with the status it answered. -/
def Move.call (w : Worker) (mv : Move) : List Doing :=
  match mv.phase with
  | .publishing m headers _ _ =>
    match (exec (publishOne m headers w.publishTimeout.toValue) mv.before).1 with
    | .ok status => [.publish m status]
    | .error _ => []
  | _ => []

/-- A move's calls and sleeps in order: its publish call, then the pauses it slept. -/
def Move.doings (w : Worker) (mv : Move) : List Doing :=
  mv.call w ++ (mv.after.sleeps.drop mv.before.sleeps.length).map .sleep

/-- The retry law told of a stretch of a synchronous run from `s`, through `moves`, to
the world `t` and phase `ph`: the closed `blocks`, and `part`, the attempts so far of the
block the phase has open. -/
structure Told (w : Worker) (s : World) (moves : List Move) (t : World) (ph : Phase)
    (blocks : List Block) (part : List (Value × Value)) : Prop where
  opens : ph.Opens w.policy part
  lawful : ∀ b ∈ blocks, (b.message.kind = .data ∨ b.message.kind = .sensitive) ∧
    b.Lawful w.policy
  order : (blocks.map Block.message ++ ph.held).Sublist (moves.flatMap Move.taken)
  doings : moves.flatMap (Move.doings w) = blocks.flatMap Block.doings ++ ph.openDoings part
  sleeps : t.sleeps = s.sleeps ++ blocks.flatMap Block.pauses ++ part.map Prod.snd
  failures : t.metrics.publishFailures =
    s.metrics.publishFailures + failureTotal blocks + part.length
  published : t.metrics.published = s.metrics.published + (blocks.filter Block.delivered).length
  exhausted : t.metrics.droppedFor .retriesExhausted =
    s.metrics.droppedFor .retriesExhausted + (blocks.filter fun b => !b.delivered).length
  lines : (s.log ++ blocks.flatMap (Block.failureLines w.label) ++
    ph.openLines w.label part).Sublist t.log

@[simp] theorem failedAttempt_log (m : Message) (status : Value) (attempt : Nat) :
    (w.failedAttempt s m status attempt).log = s.log ++ [failureLine w.label m status attempt] :=
  rfl

@[simp] theorem failedAttempt_trace (m : Message) (status : Value) (attempt : Nat) :
    (w.failedAttempt s m status attempt).trace = s.trace := rfl

@[simp] theorem failedAttempt_metrics (m : Message) (status : Value) (attempt : Nat) :
    (w.failedAttempt s m status attempt).metrics =
      { s.metrics with publishFailures := s.metrics.publishFailures + 1 } := rfl

theorem Move.doings_sent {m : Message} {headers : List (List Value)} {made : Nat}
    {rest : List Message} {next : Phase} {status : Value} {t' : World} {extra : List Value}
    (sent : exec (publishOne m headers w.publishTimeout.toValue) t = (.ok status, t₁))
    (slept : t'.sleeps = t.sleeps ++ extra) :
    Move.doings w ⟨t, .publishing m headers made rest, t', next⟩ =
      .publish m status :: extra.map .sleep := by
  simp [Move.doings, Move.call, sent, slept]

variable {moves : List Move} {ph ph' : Phase} {blocks : List Block}
  {part : List (Value × Value)} {t' : World}

theorem Told.start (w : Worker) (s : World) : Told w s [] s .draining [] [] where
  opens := rfl
  lawful := by simp
  order := by simp [Phase.held]
  doings := rfl
  sleeps := by simp
  failures := by simp
  published := by simp
  exhausted := by simp
  lines := by simp [Phase.openLines]

/-- The law told from a world the run reached quietly holds from where the run started,
and still holds after a quiet change at its end. -/
theorem Told.widen {s₀ : World} (before : Quiet s₀ s) (told : Told w s moves t ph blocks part)
    (after : Quiet t t') : Told w s₀ moves t' ph blocks part where
  opens := told.opens
  lawful := told.lawful
  order := told.order
  doings := told.doings
  sleeps := by rw [after.sleeps, told.sleeps, before.sleeps]
  failures := by rw [after.failures, told.failures, before.failures]
  published := by rw [after.published, told.published, before.published]
  exhausted := by rw [after.exhausted, told.exhausted, before.exhausted]
  lines := ((before.log.sublist.append_right _).append_right _).trans
    (told.lines.trans after.log.sublist)

/-- A move that publishes nothing and changes nothing the law watches keeps the story:
what the phase holds shrinks, or is what the move drained. -/
theorem Told.quiet (told : Told w s moves t ph blocks []) (quiet : Quiet t t')
    (opens : ph'.Opens w.policy []) (calm : Move.call w ⟨t, ph, t', ph'⟩ = [])
    (held : ph'.held.Sublist ph.held ∧ Move.taken ⟨t, ph, t', ph'⟩ = [] ∨
      ph.held = [] ∧ ph'.held = Move.taken ⟨t, ph, t', ph'⟩) :
    Told w s (moves ++ [⟨t, ph, t', ph'⟩]) t' ph' blocks [] where
  opens := opens
  lawful := told.lawful
  order := by
    rw [List.flatMap_append, List.flatMap_singleton]
    rcases held with ⟨shrunk, none⟩ | ⟨empty, drained⟩
    · rw [none, List.append_nil]
      exact (shrunk.append_left _).trans told.order
    · have order := told.order
      rw [empty, List.append_nil] at order
      rw [drained]
      exact order.append (List.Sublist.refl _)
  doings := by
    have quietly : Move.doings w ⟨t, ph, t', ph'⟩ = [] := by
      simp [Move.doings, calm, quiet.sleeps]
    rw [List.flatMap_append, List.flatMap_singleton, quietly, List.append_nil, told.doings]
    simp
  sleeps := by rw [quiet.sleeps, told.sleeps]
  failures := by rw [quiet.failures, told.failures]
  published := by rw [quiet.published, told.published]
  exhausted := by rw [quiet.exhausted, told.exhausted]
  lines := by simpa using told.lines.trans quiet.log.sublist

section Publishing

variable {m : Message} {headers : List (List Value)} {made : Nat} {rest : List Message}
  {status : Value}

/-- The last attempt of a message closes its block: it delivered or spent the limit, and
the world after it gained what the block adds, the attempt counted and logged as a failure
unless it delivered. -/
theorem Told.close (told : Told w s moves t (.publishing m headers made rest) blocks part)
    (sent : exec (publishOne m headers w.publishTimeout.toValue) t = (.ok status, t₁))
    (ends : status.isZero = true ∨ w.policy.Spent (made + 1))
    (slept : t'.sleeps = t₁.sleeps)
    (counted : t'.metrics.publishFailures =
      t₁.metrics.publishFailures + if status.isZero then 0 else 1)
    (published : t'.metrics.published = t₁.metrics.published + if status.isZero then 1 else 0)
    (exhausted : t'.metrics.droppedFor .retriesExhausted =
      t₁.metrics.droppedFor .retriesExhausted + if status.isZero then 0 else 1)
    (logged : (t₁.log ++ if status.isZero then [] else
      [failureLine w.label m status (made + 1)]).Sublist t'.log) :
    Told w s (moves ++ [⟨t, .publishing m headers made rest, t', .handling rest⟩]) t'
      (.handling rest) (blocks ++ [⟨m, part, status⟩]) [] := by
  obtain ⟨kind, rfl, earlier⟩ := told.opens
  have quiet : Quiet t t₁ := Quiet.of_sent sent
  have same : t'.sleeps = t.sleeps ++ [] := by rw [slept, quiet.sleeps, List.append_nil]
  refine ⟨rfl, ?_, ?_, ?_, ?_, ?_, ?_, ?_, ?_⟩
  · intro b mem
    rcases List.mem_append.mp mem with old | new
    · exact told.lawful b old
    · obtain rfl := List.mem_singleton.mp new
      exact ⟨kind, earlier, ends⟩
  · simpa [Phase.held] using told.order
  · rw [List.flatMap_append, List.flatMap_singleton, told.doings, Move.doings_sent sent same]
    simp [Block.doings, Phase.openDoings]
  · rw [same, told.sleeps]
    simp [Block.pauses]
  · rw [counted, quiet.failures, told.failures, failureTotal_concat]
    cases zero : status.isZero <;> simp [Block.failures, Block.delivered, zero, Nat.add_assoc]
  · rw [published, quiet.published, told.published]
    cases zero : status.isZero <;> simp [Block.delivered, zero, Nat.add_assoc]
  · rw [exhausted, quiet.exhausted, told.exhausted]
    cases zero : status.isZero <;> simp [Block.delivered, zero, Nat.add_assoc]
  · have lines := ((told.lines.trans quiet.log.sublist).append (List.Sublist.refl _)).trans logged
    cases zero : status.isZero <;>
      simpa [Block.failureLines, Block.delivered, Block.attempts, Phase.openLines, zero] using lines

/-- An attempt that delivered closes its message's block. -/
theorem Told.delivered (told : Told w s moves t (.publishing m headers made rest) blocks part)
    (sent : exec (publishOne m headers w.publishTimeout.toValue) t = (.ok status, t₁))
    (zero : status.isZero = true) :
    let t' : World :=
      { t₁ with metrics := { t₁.metrics with published := t₁.metrics.published + 1 } }
    Told w s (moves ++ [⟨t, .publishing m headers made rest, t', .handling rest⟩]) t'
      (.handling rest) (blocks ++ [⟨m, part, status⟩]) [] := by
  intro t'
  exact told.close sent (.inl zero) rfl (by simp [t', zero]) (by simp [t', zero])
    (by simp [zero]; rfl) (by simp [t', zero])

/-- An attempt that failed with no retry left closes its message's block. -/
theorem Told.gaveUp
    (typed : w.policy.maxAttempts = .none ∨ ∃ n : Int, w.policy.maxAttempts = .int n)
    (told : Told w s moves t (.publishing m headers made rest) blocks part)
    (sent : exec (publishOne m headers w.publishTimeout.toValue) t = (.ok status, t₁))
    (failed : status.isZero = false)
    (last : w.policy.shouldRetry (.int ((made + 1 : Nat) : Int)) = .ok false) :
    let t' : World := w.gaveUp (w.failedAttempt t₁ m status (made + 1)) m (made + 1)
    Told w s (moves ++ [⟨t, .publishing m headers made rest, t', .handling rest⟩]) t'
      (.handling rest) (blocks ++ [⟨m, part, status⟩]) [] := by
  intro t'
  refine told.close sent (.inr (RetryPolicy.spent_of_last typed last)) rfl ?_ ?_ ?_ ?_
  · simp [t', Worker.gaveUp, dropped, failed]
  · simp [t', Worker.gaveUp, dropped, failed]
  · simp only [t', Worker.gaveUp, dropped, Metrics.droppedFor_recordDrop, failed]
    rfl
  · simp [t', Worker.gaveUp, dropped, failed]

/-- An attempt that failed and is retried after the policy's delay adds to the open
block. -/
theorem Told.retried {pause : Value}
    (told : Told w s moves t (.publishing m headers made rest) blocks part)
    (sent : exec (publishOne m headers w.publishTimeout.toValue) t = (.ok status, t₁))
    (failed : status.isZero = false)
    (again : w.policy.shouldRetry (.int ((made + 1 : Nat) : Int)) = .ok true)
    (delay : w.policy.delay (.int ((made + 1 : Nat) : Int)) = .ok pause) :
    let t' : World := { w.failedAttempt t₁ m status (made + 1) with
      trace := (w.failedAttempt t₁ m status (made + 1)).trace ++ [.sleep pause] }
    Told w s (moves ++ [⟨t, .publishing m headers made rest, t',
        .publishing m headers (made + 1) rest⟩])
      t' (.publishing m headers (made + 1) rest) blocks (part ++ [(status, pause)]) := by
  intro t'
  obtain ⟨kind, rfl, earlier⟩ := told.opens
  have quiet : Quiet t t₁ := Quiet.of_sent sent
  have slept : t'.sleeps = t.sleeps ++ [pause] := by
    rw [← quiet.sleeps]
    simp [t', World.sleeps]
  refine ⟨⟨kind, by simp, earlier.concat failed (RetryPolicy.not_spent_of_retry again) delay⟩,
    told.lawful, ?_, ?_, ?_, ?_, ?_, ?_, ?_⟩
  · simpa [Phase.held] using told.order
  · rw [List.flatMap_append, List.flatMap_singleton, told.doings, Move.doings_sent sent slept]
    simp [Phase.openDoings]
  · rw [slept, told.sleeps]
    simp
  · show t₁.metrics.publishFailures + 1 = _
    rw [quiet.failures, told.failures]
    simp [Nat.add_assoc]
  · show t₁.metrics.published = _
    rw [quiet.published, told.published]
  · show t₁.metrics.droppedFor .retriesExhausted = _
    rw [quiet.exhausted, told.exhausted]
  · have lines := (told.lines.trans quiet.log.sublist).append
      (List.Sublist.refl [failureLine w.label m status (part.length + 1)])
    simpa [t', Phase.openLines] using lines

end Publishing

/-- Every step of a synchronous run keeps the law told, with an attempt limit that is
absent or an integer. -/
theorem Told.step
    (typed : w.policy.maxAttempts = .none ∨ ∃ n : Int, w.policy.maxAttempts = .int n)
    (told : Told w s moves t ph blocks part)
    (ran : exec (w.step w.idleWait ph) t = (.ok ph', t')) :
    ∃ blocks' part', Told w s (moves ++ [⟨t, ph, t', ph'⟩]) t' ph' blocks' part' := by
  rcases stepped_or_waited ran with stepped | ⟨rfl, rfl, waited⟩
  · cases stepped with
    | @drained batch q taken =>
      obtain rfl : part = [] := told.opens
      refine ⟨blocks, [], told.quiet (.of_metrics rfl rfl (List.prefix_refl _)) ?_ rfl
        (.inr ⟨rfl, ?_⟩)⟩
      · cases batch <;> rfl
      · cases batch <;> rfl
    | busy =>
      obtain rfl : part = [] := told.opens
      exact ⟨blocks, [], told.quiet (.of_metrics rfl rfl (List.prefix_append _ _)) rfl rfl
        (.inl ⟨List.nil_sublist _, rfl⟩)⟩
    | stops | waits | finishes | stopped =>
      obtain rfl : part = [] := told.opens
      exact ⟨blocks, [], told.quiet (.refl _) rfl rfl (.inl ⟨List.nil_sublist _, rfl⟩)⟩
    | shutdown =>
      obtain rfl : part = [] := told.opens
      exact ⟨blocks, [], told.quiet (.of_metrics rfl rfl (List.prefix_refl _)) rfl rfl
        (.inl ⟨List.Sublist.refl _, rfl⟩)⟩
    | publishable kind =>
      obtain rfl : part = [] := told.opens
      exact ⟨blocks, [], told.quiet (.refl _) ⟨kind, rfl, .nil _⟩ rfl
        (.inl ⟨List.Sublist.refl _, rfl⟩)⟩
    | notImplemented =>
      obtain rfl : part = [] := told.opens
      exact ⟨blocks, [], told.quiet (dropped_quiet (by decide) _) rfl rfl
        (.inl ⟨List.nil_sublist _, rfl⟩)⟩
    | @unsupported m rest shown _ =>
      -- the error line is logged before the drop
      obtain rfl : part = [] := told.opens
      have logged : Quiet t { t with log := t.log ++
          [LogLine.err (w.label ++ " - unsupported KafkaPublishMessageType=" ++ shown)] } :=
        .of_metrics rfl rfl (List.prefix_append _ _)
      exact ⟨blocks, [], told.quiet (logged.trans (dropped_quiet (by decide) _)) rfl rfl
        (.inl ⟨List.nil_sublist _, rfl⟩)⟩
    | delivered sent zero => exact ⟨_, _, told.delivered sent zero⟩
    | gaveUp sent failed last => exact ⟨_, _, told.gaveUp typed sent failed last⟩
    | retried sent failed again delay _ => exact ⟨_, _, told.retried sent failed again delay⟩
    | @requeued m rest =>
      obtain rfl : part = [] := told.opens
      exact ⟨blocks, [], told.quiet (requeueing_quiet m rest) rfl rfl
        (.inl ⟨List.nil_sublist _, rfl⟩)⟩
  · -- the idle wait is the step's only change
    obtain rfl : part = [] := told.opens
    exact ⟨blocks, [], told.quiet waited.quiet rfl rfl (.inl ⟨List.nil_sublist _, rfl⟩)⟩

theorem trail_stopped (wait : Act Unit) (fuel : Nat) (s : World) :
    w.trail wait fuel .stopped s = [] := by
  cases fuel <;> rfl

theorem exec_loop_stopped (wait : Act Unit) (fuel : Nat) (s : World) :
    exec (w.loop wait fuel .stopped) s = (.ok (), s) := by
  cases fuel <;> rfl

/-- A loop that has stopped ends where it is, with no block open. -/
theorem Told.stopped {fuel : Nat} {u : World} (told : Told w s moves t .stopped blocks part)
    (ended : exec (w.loop w.idleWait fuel .stopped) t = (.ok (), u)) :
    Told w s (moves ++ w.trail w.idleWait fuel .stopped t) u .stopped blocks [] := by
  rw [exec_loop_stopped, Prod.mk.injEq] at ended
  obtain ⟨-, rfl⟩ := ended
  obtain rfl : part = [] := told.opens
  simpa [trail_stopped] using told

/-- A loop that ends normally keeps the law told to its end, where no block is open. -/
theorem Told.loop
    (typed : w.policy.maxAttempts = .none ∨ ∃ n : Int, w.policy.maxAttempts = .int n)
    {fuel : Nat} {u : World} (told : Told w s moves t ph blocks part)
    (ended : exec (w.loop w.idleWait fuel ph) t = (.ok (), u)) :
    ∃ blocks', Told w s (moves ++ w.trail w.idleWait fuel ph t) u .stopped blocks' [] := by
  -- on the fuel, carrying the law from the current world and phase
  induction fuel generalizing moves t ph blocks part with
  | zero =>
    cases going : ph.isStopped
    case true =>
      obtain rfl := Phase.isStopped_iff.mp going
      exact ⟨blocks, told.stopped ended⟩
    case false => simp [Worker.loop, going, exec_fail] at ended
  | succ fuel ih =>
    cases going : ph.isStopped
    case true =>
      obtain rfl := Phase.isStopped_iff.mp going
      exact ⟨blocks, told.stopped ended⟩
    case false =>
      rw [exec_loop_succ w _ fuel going] at ended
      cases stepped : exec (w.step w.idleWait ph) t with
      | mk r t' =>
        cases r with
        | error f => simp [stepped] at ended
        | ok ph' =>
          simp only [stepped] at ended
          obtain ⟨blocks', part', told'⟩ := told.step typed stepped
          obtain ⟨blocks'', told''⟩ := ih told' ended
          have trailed : w.trail w.idleWait (fuel + 1) ph t =
              ⟨t, ph, t', ph'⟩ :: w.trail w.idleWait fuel ph' t' := by
            simp [Worker.trail, going, stepped]
          rw [trailed, ← List.singleton_append, ← List.append_assoc]
          exact ⟨blocks'', told''⟩

/-! ### Synchronous runs -/

/-- The moves of a run's loop, in order; none when it does not connect. -/
def runMoves (w : Worker) (factory : Factory) (s : World) : List Move :=
  match exec (w.connect factory) s with
  | (.ok true, s₁) => w.trail w.idleWait (w.stepBudget s₁) .draining s₁
  | _ => []

/-- Connecting answers whether a producer was created, records at most its creation,
and only adds to the log. -/
theorem exec_connect_quiet (w : Worker) (factory : Factory) (s : World) :
    (∃ created, (exec (w.connect factory) s).1 = .ok created) ∧
      Quiet s (exec (w.connect factory) s).2 := by
  unfold connect
  cases w.settings.hasBrokers <;> cases factory <;> cases w.settings.producerSettings <;>
    exact ⟨by simp [exec_bind, exec_map],
      .of_metrics (by simp [exec_bind, exec_map]) (by simp [exec_bind, exec_map, World.sleeps])
        (by simp [exec_bind, exec_map])⟩

/-- The final flush records no sleep and only adds to the log. -/
theorem closed_quiet (t : World) (remaining : Nat) : Quiet t (w.closed t remaining) := by
  refine .of_metrics rfl (by simp [closed, World.sleeps]) ?_
  unfold closed
  split <;> simp

/-- A run that ends normally is told by the law from its start to its end. -/
theorem run_told
    (typed : w.policy.maxAttempts = .none ∨ ∃ n : Int, w.policy.maxAttempts = .int n)
    {factory : Factory} (ended : (exec (w.run factory) s).1 = .ok ()) :
    ∃ ph blocks, Told w s (w.runMoves factory s) (exec (w.run factory) s).2 ph blocks [] := by
  obtain ⟨⟨created, answered⟩, quiet⟩ := exec_connect_quiet w factory s
  generalize connected : exec (w.connect factory) s = c at answered quiet
  obtain ⟨r, s₁⟩ := c
  obtain rfl : r = .ok created := answered
  cases created with
  | false =>
    have moves : w.runMoves factory s = [] := by simp [runMoves, connected]
    rw [moves, exec_run_uncreated connected]
    exact ⟨.draining, [], (Told.start w s₁).widen quiet (.refl _)⟩
  | true =>
    have moves : w.runMoves factory s = w.trail w.idleWait (w.stepBudget s₁) .draining s₁ := by
      simp [runMoves, connected]
    rw [exec_run_created connected] at ended ⊢
    rw [moves]
    generalize looped :
      exec (w.loop w.idleWait (w.stepBudget s₁) .draining) s₁ = out at ended ⊢
    obtain ⟨r, u⟩ := out
    -- a final flush that raised would have ended the run with its error
    cases flushing : u.producer.flush with
    | mk flushed p =>
      cases flushed with
      | error f => simp [flushing] at ended
      | ok remaining =>
        simp only [flushing] at ended ⊢
        obtain rfl : r = .ok () := ended
        obtain ⟨blocks, told⟩ := (Told.start w s₁).loop typed looped
        rw [List.nil_append] at told
        have flushed : Quiet u { u with producer := p } := .of_metrics rfl rfl (List.prefix_refl _)
        exact ⟨.stopped, blocks, told.widen quiet (flushed.trans (closed_quiet _ remaining))⟩

end Worker

open Worker in
/-- The retry law of a worker's run that ends normally, with an attempt limit that is
absent or an integer. Its publish calls and sleeps are those of consecutive blocks, one
for each Data or Sensitive message it took up, in the order it drained them. In each
block the attempts before the last failed with the limit unspent, each followed by one
sleep for the policy's delay; the last delivered or spent the limit. The run sleeps
nowhere else. Its failure count grows by the failed attempts, each logged as an error
with its attempt number, in order; its published count grows by the blocks that
delivered, and its count of messages dropped for used-up retries by the others. -/
theorem retries_follow_policy {w : Worker} {factory : Factory} {s : World}
    (typed : w.policy.maxAttempts = .none ∨ ∃ n : Int, w.policy.maxAttempts = .int n)
    (ended : (exec (w.run factory) s).1 = .ok ()) :
    ∃ blocks : List Block,
      (w.runMoves factory s).flatMap (Move.doings w) = blocks.flatMap Block.doings ∧
      (blocks.map Block.message).Sublist ((w.runMoves factory s).flatMap Move.taken) ∧
      (∀ b ∈ blocks, (b.message.kind = .data ∨ b.message.kind = .sensitive) ∧
        b.Lawful w.policy) ∧
      (exec (w.run factory) s).2.sleeps = s.sleeps ++ blocks.flatMap Block.pauses ∧
      (exec (w.run factory) s).2.metrics.publishFailures =
        s.metrics.publishFailures + failureTotal blocks ∧
      (s.log ++ blocks.flatMap (Block.failureLines w.label)).Sublist
        (exec (w.run factory) s).2.log ∧
      (exec (w.run factory) s).2.metrics.published =
        s.metrics.published + (blocks.filter Block.delivered).length ∧
      (exec (w.run factory) s).2.metrics.droppedFor .retriesExhausted =
        s.metrics.droppedFor .retriesExhausted + (blocks.filter fun b => !b.delivered).length := by
  obtain ⟨ph, blocks, told⟩ := run_told typed ended
  refine ⟨blocks, ?_, ?_, told.lawful, ?_, ?_, ?_, told.published, told.exhausted⟩
  · simpa using told.doings
  · exact (List.sublist_append_left _ _).trans told.order
  · simpa using told.sleeps
  · simpa using told.failures
  · simpa using told.lines

/-- A worker allowed one attempt per message, on a queue with two Data messages and a
Shutdown message, whose producer fails the first delivery: its run ends normally, and
its blocks are lawful and account for its failures. -/
theorem one_attempt_blocks_lawful :
    let settings : Settings := { brokers := ["localhost:9092"], retryMaxAttempts := some 1 }
    let w : Worker := { threadNum := .int 0, label := "ktp-tid-1", settings,
                        policy := RetryPolicy.ofSettings settings, publishTimeout := .int 6 }
    let s : World := {
      queue := {
        lockTimeout := 10.0
        waitOverflows := false
        items := [{ kind := .data, payload := .text "a" }, { kind := .data, payload := .text "b" },
          { kind := .shutdown }] }
      producer := { script := [.deliver (.fail (.int 5))] } }
    ((w.policy.maxAttempts = .none ∨ ∃ n : Int, w.policy.maxAttempts = .int n) ∧
      (exec (w.run .works) s).1 = .ok ()) ∧
    ∃ blocks : List Block, (∀ b ∈ blocks, b.Lawful w.policy) ∧
      (exec (w.run .works) s).2.metrics.publishFailures = failureTotal blocks := by
  intro settings w s
  have typed : w.policy.maxAttempts = .none ∨ ∃ n : Int, w.policy.maxAttempts = .int n :=
    .inr ⟨1, rfl⟩
  have ended : (exec (w.run .works) s).1 = .ok () := by
    have answered : (exec (w.run .works) s).1.isOk = true := by decide +kernel
    generalize (exec (w.run .works) s).1 = r at answered
    cases r with
    | ok u => rfl
    | error f => cases answered
  obtain ⟨blocks, -, -, lawful, -, failures, -⟩ := retries_follow_policy typed ended
  have fresh : s.metrics.publishFailures = 0 := rfl
  rw [fresh, Nat.zero_add] at failures
  exact ⟨⟨typed, ended⟩, blocks, fun b mem => (lawful b mem).2, failures⟩

/-- A pause the system's sleep refuses cuts its message's block short: a retry
interval of 10^10 seconds, which the settings accept, is too long to measure in
nanoseconds, so the one attempt failed and was counted, yet the message is neither
published nor dropped, and the run passes the sleep's fault on. -/
theorem refused_sleep_cuts_block_short :
    let settings : Settings := { brokers := ["localhost:9092"], logLabel := .str "test" }
    let w : Worker := { threadNum := .int 0, label := "test-tid-1", settings,
                        policy := { interval := .float 10000000000.0, maxAttempts := .int 4 },
                        publishTimeout := .int 6 }
    let s : World := {
      queue := {
        lockTimeout := 10.0
        waitOverflows := false
        items := [{ kind := .data, topic := "testing", payload := .text "p" },
          { kind := .shutdown }] }
      producer := { script := [.deliver (.fail (.int 5))] } }
    (exec (w.run .works) s).1 = .error WorkQueue.waitTooLong ∧
      (exec (w.run .works) s).2.metrics.publishFailures = 1 ∧
      (exec (w.run .works) s).2.metrics.published = 0 ∧
      (exec (w.run .works) s).2.metrics.droppedFor .retriesExhausted = 0 := by
  intro settings w s
  exact ⟨rfl, rfl, rfl, rfl⟩

end PublishPool
