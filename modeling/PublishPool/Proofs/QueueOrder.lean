import PublishPool.World

/-!
The work queue keeps every message it accepts, in order.

A history of queue calls is any sequence of enqueues, drains with any bound, full
drains and length reads, from callers and workers alike, with another party taking
and giving back the lock between them; each call runs whole under the lock, so the
sequence stands for every interleaving of the parties. `QueueCall.actAll` makes the
calls in order and records each as an `Entry`: the contents before it, its answer,
and the contents after it.

Main statements:

* `WorkQueue.drain_takes_front`: a drain with an integer bound takes a front part of
  the contents, as a slice with that upper bound does: all but the last `|bound|`
  messages when the bound is negative;
* `QueueCall.contents_law`: one call takes a front part of the contents or appends
  what it accepts, never both, and a successful enqueue answers the new length;
* `queue_calls_lossless`: over a whole history, what the drains answered followed
  by what is left is what was there followed by everything enqueues accepted; a
  call that fails or answers an empty batch leaves the contents as they were.
-/

namespace PublishPool

open Act

/-- A call on the work queue: from a caller or a worker, or another party taking
or giving back the lock. -/
inductive QueueCall where
  | enqueue (msgs : List Message)
  | drain (bound : Value)
  | drainAll
  | length
  | hold
  | release

/-- What a call on the queue answers. -/
inductive QueueReply where
  | count (n : Nat)
  | batch (msgs : List Message)
  | flag (b : Bool)

namespace WorkQueue

/-! ### The queue's own operations -/

variable {q q' : WorkQueue} {msgs batch : List Message}

/-- An enqueue that succeeds appends its batch and answers the new length. -/
theorem enqueue_ok {n : Nat} (h : q.enqueue msgs = .ok (n, q')) :
    q' = { q with items := q.items ++ msgs } ∧ n = (q.items ++ msgs).length := by
  unfold enqueue at h
  split at h
  · cases h
  · cases hacq : q.acquire <;> simp only [hacq, reduceCtorEq] at h
    cases h
    exact ⟨rfl, rfl⟩

/-- A drain that gets the lock takes a front part of the contents. -/
theorem drain_some {bound : Value} (h : q.drain bound = .ok (some (batch, q'))) :
    ∃ k, batch = q.items.take k ∧ q' = { q with items := q.items.drop k } := by
  unfold drain at h
  cases hacq : q.acquire <;> simp only [hacq, reduceCtorEq, Except.ok.injEq] at h
  cases hb : sliceBound bound with
  | error f => simp [hb, bind, Except.bind] at h
  | ok b =>
    simp only [hb, bind, Except.bind, pure, Except.pure, Except.ok.injEq, Option.some.injEq,
      Prod.mk.injEq] at h
    obtain ⟨rfl, rfl⟩ := h
    exact ⟨_, rfl, rfl⟩

/-- A drain with an integer bound that gets the lock takes a front part of the
contents, in order, and leaves the rest in order. A bound that is not negative takes
that many messages, or all there are; a negative bound counts from the back, as a
slice does, and takes all but the last `|bound|` messages. -/
theorem drain_takes_front (taken : q.acquire = .taken) (bound : Int) :
    ∃ batch rest, q.drain (.int bound) = .ok (some (batch, { q with items := rest })) ∧
      batch ++ rest = q.items ∧
      (batch.length : Int) =
        if 0 ≤ bound then min bound q.items.length else max (q.items.length + bound) 0 := by
  refine ⟨q.items.take (frontCount bound q.items.length),
    q.items.drop (frontCount bound q.items.length), ?_, List.take_append_drop _ _, ?_⟩
  · simp [drain, taken, sliceBound, bind, Except.bind, pure, Except.pure]
  · rw [List.length_take]
    unfold frontCount
    simp only [Nat.min_def, Int.min_def, Int.max_def]
    repeat' split
    all_goals omega

/-- Three queued messages drained with the bound -1: the first two are taken. -/
theorem drain_minus_one_takes_two :
    ({ lockTimeout := 1.0, waitOverflows := false, items := [{}, {}, {}] } : WorkQueue).acquire =
        .taken ∧
      ∃ batch rest, ({ lockTimeout := 1.0, waitOverflows := false, items := [{}, {}, {}] } :
          WorkQueue).drain (.int (-1)) =
          .ok (some (batch, { lockTimeout := 1.0, waitOverflows := false, items := rest })) ∧
        batch ++ rest = [{}, {}, {}] ∧
        (batch.length : Int) = if (0 : Int) ≤ -1 then min (-1) 3 else max (3 + -1) 0 :=
  ⟨rfl, drain_takes_front rfl (-1)⟩

/-- A full drain that gets the lock takes everything. -/
theorem drainAll_some (h : q.drainAll = .ok (some (batch, q'))) :
    batch = q.items ∧ q' = { q with items := [] } := by
  unfold drainAll at h
  cases hacq : q.acquire <;> simp only [hacq, reduceCtorEq, Except.ok.injEq] at h
  simp only [Option.some.injEq, Prod.mk.injEq] at h
  exact ⟨h.1.symm, h.2.symm⟩

@[simp] theorem hold_items : (q.hold).2.items = q.items := by
  unfold hold; split <;> rfl

@[simp] theorem release_items : (q.release).2.items = q.items := rfl

end WorkQueue

namespace QueueCall

/-- Makes one call. -/
def act : QueueCall → Act QueueReply
  | .enqueue msgs => QueueReply.count <$> Act.enqueue msgs
  | .drain bound => QueueReply.batch <$> Act.drain bound
  | .drainAll => QueueReply.batch <$> Act.drainAll
  | .length => QueueReply.count <$> queueLength
  | .hold => do
    let (got, q) := (← get).queue.hold
    setQueue q
    pure (.flag got)
  | .release => do
    let (was, q) := (← get).queue.release
    setQueue q
    pure (.flag was)

/-- One call as it happened. -/
structure Entry where
  call : QueueCall
  before : List Message
  reply : Except Fault QueueReply
  after : List Message

/-- Makes calls in order; a call that fails is answered with its fault and the next
call follows. -/
def actAll : List QueueCall → Act (List Entry)
  | [] => pure []
  | c :: cs => do
    let before := (← get).queue.items
    let reply ← attempt c.act
    let after := (← get).queue.items
    let rest ← actAll cs
    pure ({ call := c, before, reply, after } :: rest)

/-- The messages a call added to the queue: an enqueue's batch, when it succeeded. -/
def accepted : QueueCall → Except Fault QueueReply → List Message
  | .enqueue msgs, .ok (.count _) => msgs
  | _, _ => []

/-- The messages a call took from the queue: the batch it answered. -/
def removed : Except Fault QueueReply → List Message
  | .ok (.batch msgs) => msgs
  | _ => []

/-- The messages an entry's call added. -/
def Entry.added (e : Entry) : List Message := accepted e.call e.reply

/-- The messages an entry's call took. -/
def Entry.taken (e : Entry) : List Message := removed e.reply

/-! ### One call -/

section OneCall

variable (s : World)

/-- One call: the contents before it followed by what it added are what it took
followed by the contents after it. -/
theorem contents_law (c : QueueCall) :
    s.queue.items ++ accepted c (exec c.act s).1 =
      removed (exec c.act s).1 ++ (exec c.act s).2.queue.items := by
  cases c with
  | enqueue msgs =>
    simp only [act, exec_map, exec_enqueue]
    cases h : s.queue.enqueue msgs with
    | ok r =>
      obtain ⟨n, q⟩ := r
      obtain ⟨rfl, -⟩ := WorkQueue.enqueue_ok h
      simp [accepted, removed]
    | error f => cases hf : WorkQueue.isRefusal f <;> simp [hf, accepted, removed]
  | drain bound =>
    simp only [act, exec_map, exec_drain]
    cases h : s.queue.drain bound with
    | ok r =>
      cases r with
      | none => simp [accepted, removed]
      | some taken =>
        obtain ⟨batch, q⟩ := taken
        obtain ⟨k, rfl, rfl⟩ := WorkQueue.drain_some h
        simp [accepted, removed]
    | error f => simp [accepted, removed]
  | drainAll =>
    simp only [act, exec_map, exec_drainAll]
    cases h : s.queue.drainAll with
    | ok r =>
      cases r with
      | none => simp [accepted, removed]
      | some taken =>
        obtain ⟨batch, q⟩ := taken
        obtain ⟨rfl, rfl⟩ := WorkQueue.drainAll_some h
        simp [accepted, removed]
    | error f => simp [accepted, removed]
  | length =>
    simp only [act, exec_map, exec_queueLength]
    cases s.queue.length with
    | ok n => simp [accepted, removed]
    | error f => cases hf : WorkQueue.isRefusal f <;> simp [hf, accepted, removed]
  | hold => simp [act, exec_bind, exec_map, accepted, removed]
  | release => simp [act, exec_bind, exec_map, accepted, removed]

/-- An enqueue that succeeds answers the length of the queue after it. -/
theorem enqueue_answers_length (msgs : List Message) {n : Nat}
    (answered : (exec (act (.enqueue msgs)) s).1 = .ok (.count n)) :
    n = (exec (act (.enqueue msgs)) s).2.queue.items.length := by
  simp only [act, exec_map, exec_enqueue] at answered ⊢
  cases h : s.queue.enqueue msgs with
  | ok r =>
    obtain ⟨n', q⟩ := r
    obtain ⟨rfl, rfl⟩ := WorkQueue.enqueue_ok h
    simp only [h, Except.ok.injEq, QueueReply.count.injEq] at answered
    simp [answered]
  | error f =>
    cases hf : WorkQueue.isRefusal f <;> simp [h, hf] at answered

end OneCall

/-! ### A history of calls -/

/-- Making calls one after another: the first call's entry, then the others from
the world it leaves. -/
theorem exec_actAll_cons (c : QueueCall) (cs : List QueueCall) (s : World) :
    exec (actAll (c :: cs)) s = match exec (actAll cs) (exec c.act s).2 with
      | (.ok rest, s') =>
        (.ok ({ call := c, before := s.queue.items, reply := (exec c.act s).1,
                after := (exec c.act s).2.queue.items } :: rest), s')
      | (.error f, s') => (.error f, s') := by
  simp only [actAll, exec_bind, exec_get, exec_attempt]
  cases exec (actAll cs) (exec c.act s).2 with
  | mk r s' => cases r <;> rfl

/-- Entries that follow one another, from `start` to `final`: each call starts from
the contents the one before it left. -/
def Consecutive (start : List Message) (entries : List Entry) (final : List Message) : Prop :=
  start :: entries.map Entry.after = entries.map Entry.before ++ [final]

/-- Summing the law of each call over consecutive calls. -/
theorem history_law {start final : List Message} {entries : List Entry}
    (consecutive : Consecutive start entries final)
    (each : ∀ e ∈ entries, e.before ++ e.added = e.taken ++ e.after) :
    start ++ entries.flatMap Entry.added = entries.flatMap Entry.taken ++ final := by
  induction entries generalizing start with
  | nil =>
    simp only [Consecutive, List.map_nil, List.nil_append, List.cons.injEq] at consecutive
    simp [consecutive.1]
  | cons e rest ih =>
    simp only [Consecutive, List.map_cons, List.cons_append, List.cons.injEq] at consecutive
    obtain ⟨rfl, later⟩ := consecutive
    have first := each e (by simp)
    have others := ih later fun e' mem => each e' (by simp [mem])
    calc e.before ++ (e :: rest).flatMap Entry.added
        = (e.before ++ e.added) ++ rest.flatMap Entry.added := by simp
      _ = e.taken ++ (e.after ++ rest.flatMap Entry.added) := by rw [first, List.append_assoc]
      _ = (e :: rest).flatMap Entry.taken ++ final := by simp [others]

/-- Every history runs to its end and records one entry per call, consecutive, each
obeying the law of one call. -/
theorem actAll_entries (cs : List QueueCall) (s : World) :
    ∃ entries, (exec (actAll cs) s).1 = .ok entries ∧ entries.map Entry.call = cs ∧
      Consecutive s.queue.items entries (exec (actAll cs) s).2.queue.items ∧
      ∀ e ∈ entries, e.before ++ e.added = e.taken ++ e.after ∧
        ∀ msgs n, e.call = .enqueue msgs → e.reply = .ok (.count n) → n = e.after.length := by
  induction cs generalizing s with
  | nil => exact ⟨[], rfl, rfl, rfl, by simp⟩
  | cons c cs ih =>
    obtain ⟨rest, ran, calls, consecutive, each⟩ := ih (exec c.act s).2
    rw [exec_actAll_cons]
    generalize exec (actAll cs) (exec c.act s).2 = out at ran consecutive
    obtain ⟨r, s'⟩ := out
    simp only at ran consecutive
    subst ran
    refine ⟨_, rfl, by simp [calls], ?_, ?_⟩
    · simp only [Consecutive] at consecutive ⊢
      simp [consecutive]
    · intro e mem
      rcases List.mem_cons.mp mem with rfl | later
      · refine ⟨contents_law s c, ?_⟩
        rintro msgs n rfl answered
        exact enqueue_answers_length s msgs answered
      · exact each e later

/-- A call that failed, or answered an empty batch, left the contents as they were. -/
theorem Entry.after_eq_before {e : Entry} (law : e.before ++ e.added = e.taken ++ e.after)
    (idle : (∃ f, e.reply = .error f) ∨ e.reply = .ok (.batch [])) : e.after = e.before := by
  have nothing : e.added = [] ∧ e.taken = [] := by
    rcases idle with ⟨f, failed⟩ | empty
    · simp [Entry.added, Entry.taken, accepted, removed, failed]
    · simp [Entry.added, Entry.taken, accepted, removed, empty]
  simpa [nothing.1, nothing.2] using law.symm

end QueueCall

/-- The work queue loses nothing and reorders nothing. Over any history of calls,
with the lock taken and given back by other parties anywhere in it: what the drains
answered, in order, followed by what is left, is what was there followed by every
batch an enqueue accepted, in order. Each successful enqueue answers the length
after it, and a call that fails or answers an empty batch leaves the contents as
they were. -/
theorem queue_calls_lossless (calls : List QueueCall) (s : World) :
    ∃ entries, (exec (QueueCall.actAll calls) s).1 = .ok entries ∧
      entries.map QueueCall.Entry.call = calls ∧
      QueueCall.Consecutive s.queue.items entries
        (exec (QueueCall.actAll calls) s).2.queue.items ∧
      s.queue.items ++ entries.flatMap QueueCall.Entry.added =
        entries.flatMap QueueCall.Entry.taken ++ (exec (QueueCall.actAll calls) s).2.queue.items ∧
      (∀ e ∈ entries, ∀ msgs n, e.call = .enqueue msgs → e.reply = .ok (.count n) →
        n = e.after.length) ∧
      ∀ e ∈ entries, ((∃ f, e.reply = .error f) ∨ e.reply = .ok (.batch [])) →
        e.after = e.before := by
  obtain ⟨entries, ran, calls_eq, consecutive, each⟩ := QueueCall.actAll_entries calls s
  refine ⟨entries, ran, calls_eq, consecutive, ?_, ?_, ?_⟩
  · exact QueueCall.history_law consecutive fun e mem => (each e mem).1
  · exact fun e mem => (each e mem).2
  · exact fun e mem idle => QueueCall.Entry.after_eq_before (each e mem).1 idle

end PublishPool
