import PublishPool.Proofs.Fates

/-!
Shutting a pool down loses no work queued ahead of the Shutdown message.

The workers of a pool share one world: its queue, its stop signal, its log and
events. Each keeps its own place in its loop, its counters and its producer
(`Pool.Member`). A pool runs turn by turn (`Pool.Turn`): a member takes one step of
its loop, another party calls the queue (an enqueue, a drain, a full drain, a length
read, the lock taken or given back), or another party sets the stop signal. Every
queue call runs whole under the lock, so each interleaving of the workers' threads
and their callers is such a sequence of turns; a member's idle wait only lets time
pass, and what happens meanwhile is turns of the others.

`Pool.Chronicle` runs a pool and keeps its history: every message that entered the
queue, in order of arrival (those queued at the start first), how many of them have
left it, and for each member the arrival numbers of the messages it drained and what
became of each (`Worker.Fate`). The history is read off the turns; no step reads it.

Main statement, `pool_shutdown_settles_earlier_work`: in every state a pool reaches
without a failing step,

* the queue holds the messages that arrived and have not left, in order of arrival;
* a message a member dropped as the remainder of its batch after a Shutdown message
  arrived after that Shutdown message, the only one the member handled;
* a member that has taken a Shutdown message has set the stop signal, and every
  message that arrived before that Shutdown message has left the queue;
* a stopped member has settled every message it drained: up to the Shutdown message
  it handled, if any, each was published or dropped after its last attempt or with a
  broker-detail request; after it, each is that Shutdown message's remainder;
* only Data and Sensitive messages are published or given up on, and each member's
  counters are the tallies of its fates.

The settling covers what lies ahead of the Shutdown message a member handled, not
what lies ahead of any Shutdown message: `remainder_between_shutdowns` is a batch of
a Shutdown message, a Data message and a second Shutdown message, where the Data
message goes with the first one's remainder.
-/

namespace PublishPool

open Act Worker

namespace Pool

/-- A worker of a running pool: where it is in its loop, with its own counters and
producer. -/
structure Member where
  worker : Worker
  phase : Phase := .draining
  metrics : Metrics := {}
  producer : Producer := {}

/-- The world a member steps in: the shared one, with its own counters and producer. -/
def Member.view (mem : Member) (s : World) : World :=
  { s with metrics := mem.metrics, producer := mem.producer }

/-- The move a member makes from the shared world, when its step succeeds. -/
def Member.move (mem : Member) (s : World) : Option Move :=
  match exec (mem.worker.step (pure ()) mem.phase) (mem.view s) with
  | (.ok next, after) => some ⟨mem.view s, mem.phase, after, next⟩
  | (.error _, _) => none

/-- One turn of a pool. -/
inductive Turn where
  /-- The member at this position takes one step of its loop. -/
  | work (i : Nat)
  /-- Another party calls the queue. -/
  | call (c : QueueCall)
  /-- Another party sets the stop signal. -/
  | signal

/-- Fates numbered from `first` on, in order. -/
def numbered (first : Nat) : List (Message × Fate) → List (Nat × Fate)
  | [] => []
  | (_, f) :: rest => (first, f) :: numbered (first + 1) rest

/-- A member with what became of the messages it drained. -/
structure Tracked extends Member where
  /-- The arrival number of the first message it holds. -/
  start : Nat := 0
  /-- The arrival numbers of the messages it drained, in order. -/
  drained : List Nat := []
  /-- What became of the messages it settled, by arrival number, in order. -/
  fates : List (Nat × Fate) := []

/-- A member after its move, when `gone` messages had left the queue before it: the
batch it drained is numbered from `gone` on, and the messages it settled from its
first held one on. -/
def Tracked.moved (tr : Tracked) (mv : Move) (gone : Nat) : Tracked where
  worker := tr.worker
  phase := mv.next
  metrics := mv.after.metrics
  producer := mv.after.producer
  start := if mv.taken.isEmpty then tr.start + mv.settled.length else gone
  drained := tr.drained ++ List.range' gone mv.taken.length
  fates := tr.fates ++ numbered tr.start mv.settled

/-- A running pool with its history. -/
structure Chronicle where
  world : World
  members : List Tracked
  /-- Every message that entered the queue, in order of arrival. -/
  arrived : List Message
  /-- How many of them have left the queue. -/
  gone : Nat

/-- A pool about to run: its workers, each with its own producer, all about to
drain; what the queue holds has just arrived. -/
def Chronicle.start (s : World) (team : List (Worker × Producer)) : Chronicle where
  world := s
  members := team.map fun (w, p) => { worker := w, producer := p }
  arrived := s.queue.items
  gone := 0

/-- One turn; none when the member's step fails. -/
def Chronicle.turn (ch : Chronicle) : Turn → Option Chronicle
  | .work i => do
    let tr ← ch.members[i]?
    let mv ← tr.move ch.world
    pure { world := mv.after, members := ch.members.set i (tr.moved mv ch.gone),
           arrived := ch.arrived ++ mv.put, gone := ch.gone + mv.taken.length }
  | .call c =>
    some { ch with world := (exec c.act ch.world).2,
                   arrived := ch.arrived ++ QueueCall.accepted c (exec c.act ch.world).1,
                   gone := ch.gone + (QueueCall.removed (exec c.act ch.world).1).length }
  | .signal => some { ch with world := { ch.world with stopSet := true } }

/-- Turns one after another; none when a member's step fails. -/
def Chronicle.play (ch : Chronicle) : List Turn → Option Chronicle
  | [] => some ch
  | t :: ts => (ch.turn t).bind (·.play ts)

/-! ### Numbering -/

section Numbering

variable {first : Nat} {l : List (Message × Fate)}

theorem numbered_map_fst : (numbered first l).map Prod.fst = List.range' first l.length := by
  induction l generalizing first with
  | nil => rfl
  | cons p rest ih => simp [numbered, ih, List.range'_succ]

theorem numbered_countP (f : Fate) :
    (numbered first l).countP (·.2 = f) = l.countP (·.2 = f) := by
  induction l generalizing first with
  | nil => rfl
  | cons p rest ih => simp [numbered, ih, List.countP_cons]

theorem mem_numbered {p : Nat × Fate} (mem : p ∈ numbered first l) :
    first ≤ p.1 ∧ ∃ m, (m, p.2) ∈ l := by
  induction l generalizing first with
  | nil => simp [numbered] at mem
  | cons q rest ih =>
    simp only [numbered, List.mem_cons] at mem
    rcases mem with rfl | later
    · exact ⟨Nat.le_refl _, q.1, by simp⟩
    · obtain ⟨after, m, found⟩ := ih later
      exact ⟨by omega, m, List.mem_cons_of_mem _ found⟩

/-- Numbered from where they arrived, settled messages keep the fates that suit them. -/
theorem numbered_fits {arrived : List Message}
    (arrival : l.map Prod.fst = (arrived.drop first).take l.length)
    (fits : ∀ p ∈ l, p.2.Fits p.1) :
    ∀ p ∈ numbered first l, ∃ m, arrived[p.1]? = some m ∧ p.2.Fits m := by
  induction l generalizing first with
  | nil => simp [numbered]
  | cons q rest ih =>
    obtain ⟨m, f⟩ := q
    have present : first < arrived.length := by
      apply Nat.lt_of_not_le
      intro beyond
      simp [List.drop_eq_nil_of_le beyond] at arrival
    rw [List.drop_eq_getElem_cons present, List.length_cons, List.take_succ_cons, List.map_cons,
      List.cons.injEq] at arrival
    obtain ⟨head, tail⟩ := arrival
    intro p mem
    simp only [numbered, List.mem_cons] at mem
    rcases mem with rfl | later
    · exact ⟨m, by simp [present, head.symm], fits (m, f) (by simp)⟩
    · exact ih tail (fun p mem => fits p (List.mem_cons_of_mem _ mem)) p later

end Numbering

/-! ### The queue in order of arrival -/

/-- A change of the queue that takes `taken` from its front and appends `put` keeps it
the messages that arrived and have not left, and `taken` were the next to leave. -/
theorem fifo_step {arrived put taken after : List Message} {gone : Nat}
    (bound : gone ≤ arrived.length) (law : arrived.drop gone ++ put = taken ++ after) :
    after = (arrived ++ put).drop (gone + taken.length) ∧
      gone + taken.length ≤ (arrived ++ put).length ∧
      taken = ((arrived ++ put).drop gone).take taken.length := by
  have whole : (arrived ++ put).drop gone = taken ++ after := by
    rw [List.drop_append_of_le_length bound, law]
  refine ⟨?_, ?_, ?_⟩
  · rw [← List.drop_drop, whole, List.drop_left]
  · have lengths := congrArg List.length whole
    simp only [List.length_drop, List.length_append] at lengths
    simp only [List.length_append]
    omega
  · rw [whole, List.take_left]

/-- Calls on the queue leave the stop signal alone. -/
theorem QueueCall.act_stopSet (c : QueueCall) (s : World) :
    (exec c.act s).2.stopSet = s.stopSet := by
  cases c with
  | enqueue msgs =>
    simp only [QueueCall.act, exec_map, exec_enqueue]
    cases s.queue.enqueue msgs with
    | ok r => rfl
    | error f => cases refusal : WorkQueue.isRefusal f <;> simp [refusal]
  | drain bound =>
    simp only [QueueCall.act, exec_map, exec_drain]
    cases s.queue.drain bound with
    | ok r => cases r <;> rfl
    | error f => rfl
  | drainAll =>
    simp only [QueueCall.act, exec_map, exec_drainAll]
    cases s.queue.drainAll with
    | ok r => cases r <;> rfl
    | error f => rfl
  | length =>
    simp only [QueueCall.act, exec_map, exec_queueLength]
    cases s.queue.length with
    | ok n => rfl
    | error f => cases refusal : WorkQueue.isRefusal f <;> simp [refusal]
  | hold => simp [QueueCall.act, exec_bind, exec_map]
  | release => simp [QueueCall.act, exec_bind, exec_map]

/-- A member's move is a step of its worker from the shared world seen with its own
counters and producer. -/
theorem Member.move_made {mem : Member} {s : World} {mv : Move} (moved : mem.move s = some mv) :
    mv.Made mem.worker ∧ mv.before = mem.view s ∧ mv.phase = mem.phase := by
  unfold Member.move at moved
  split at moved
  · rename_i next after stepped
    cases moved
    exact ⟨stepped, rfl, rfl⟩
  · cases moved

/-- Cutting a run of consecutive arrivals in two leaves two runs of consecutive
arrivals. -/
theorem slice_append {arrived front back : List Message} {first : Nat}
    (slice : front ++ back = (arrived.drop first).take (front ++ back).length) :
    front = (arrived.drop first).take front.length ∧
      back = (arrived.drop (first + front.length)).take back.length := by
  have fits := congrArg List.length slice
  rw [List.length_append, List.take_add] at slice
  rw [List.length_take, List.length_append] at fits
  obtain ⟨head, tail⟩ := List.append_inj slice (by rw [List.length_take]; omega)
  exact ⟨head, tail.trans (by rw [List.drop_drop])⟩

/-! ### What the history says -/

/-- Fates that end a member's record: a Shutdown message handled, then the remainder
of its batch, dropped, all of which arrived after it. -/
def Closes (post : List (Nat × Fate)) : Prop :=
  ∃ g rest, post = (g, .handled) :: rest ∧
    ∀ p ∈ rest, p.2 = .dropped .shutdownRemainder ∧ g < p.1

/-- What the history says of a member, given the messages that arrived, how many of
them have left the queue, and whether the stop signal is set. -/
structure Tracked.Sound (tr : Tracked) (arrived : List Message) (gone : Nat) (stop : Bool) :
    Prop where
  /-- The messages it holds arrived one after another from `start` on, and have left
  the queue. -/
  held : tr.phase.held = (arrived.drop tr.start).take tr.phase.held.length
  left : tr.start + tr.phase.held.length ≤ gone
  /-- What it drained is what it settled followed by what it holds. -/
  drained : tr.drained = tr.fates.map Prod.fst ++ List.range' tr.start tr.phase.held.length
  seen : ∀ j ∈ tr.drained, j < gone
  fits : ∀ p ∈ tr.fates, ∃ m, arrived[p.1]? = some m ∧ p.2.Fits m
  fitting : tr.phase.Fitting
  published : tr.metrics.published = tr.fates.countP (·.2 = .published)
  dropped : ∀ r, tr.metrics.droppedFor r = tr.fates.countP (·.2 = .dropped r)
  /-- Plain fates first; a handled Shutdown message and its remainder only once it has
  stopped. -/
  order : ∃ pre post, tr.fates = pre ++ post ∧ (∀ p ∈ pre, p.2.Plain) ∧
    (post = [] ∨ tr.phase = .stopped ∧ Closes post)
  signal : ∀ m rest, tr.phase = .requeueing m rest → stop = true

/-- What the history says of a pool: its queue holds what arrived and has not left,
and each member's record is sound. -/
structure Chronicle.Sound (ch : Chronicle) : Prop where
  queue : ch.world.queue.items = ch.arrived.drop ch.gone
  bound : ch.gone ≤ ch.arrived.length
  members : ∀ tr ∈ ch.members, tr.Sound ch.arrived ch.gone ch.world.stopSet

variable {tr : Tracked} {arrived : List Message} {gone : Nat} {stop : Bool}

/-- What others do keeps a member's record sound: more messages arrive, more leave the
queue, and the stop signal stays set. -/
theorem Tracked.Sound.grow {extra : List Message} {gone' : Nat} {stop' : Bool}
    (sound : tr.Sound arrived gone stop) (bound : gone ≤ arrived.length) (more : gone ≤ gone')
    (still : stop = true → stop' = true) : tr.Sound (arrived ++ extra) gone' stop' where
  held := by
    have left := sound.left
    rw [List.drop_append_of_le_length (by omega), List.take_append_of_le_length]
    · exact sound.held
    · simp only [List.length_drop]; omega
  left := by have := sound.left; omega
  drained := sound.drained
  seen j mem := by have := sound.seen j mem; omega
  fits p mem := by
    obtain ⟨m, found, fit⟩ := sound.fits p mem
    have early : p.1 < arrived.length := by
      have drained : p.1 ∈ tr.drained := by
        rw [sound.drained]
        exact List.mem_append_left _ (List.mem_map.mpr ⟨p, mem, rfl⟩)
      have := sound.seen _ drained
      omega
    exact ⟨m, by rw [List.getElem?_append_left early]; exact found, fit⟩
  fitting := sound.fitting
  published := sound.published
  dropped := sound.dropped
  order := sound.order
  signal m rest requeueing := still (sound.signal m rest requeueing)

/-! ### A member's own move -/

section Moved

variable {mv : Move}

/-- Where a member's held messages stand after its move: those it settled were the
first it held, and those it holds now arrived one after another and have left the
queue. -/
theorem slots_moved (fates : mv.Fates) (phase : mv.phase = tr.phase)
    (held : tr.phase.held = (arrived.drop tr.start).take tr.phase.held.length)
    (left : tr.start + tr.phase.held.length ≤ gone)
    (next : mv.taken = (arrived.drop gone).take mv.taken.length) :
    mv.settled.map Prod.fst = (arrived.drop tr.start).take mv.settled.length ∧
      (tr.moved mv gone).phase.held =
        (arrived.drop (tr.moved mv gone).start).take (tr.moved mv gone).phase.held.length ∧
      (tr.moved mv gone).start + (tr.moved mv gone).phase.held.length ≤ gone + mv.taken.length ∧
      List.range' tr.start tr.phase.held.length ++ List.range' gone mv.taken.length =
        List.range' tr.start mv.settled.length ++
          List.range' (tr.moved mv gone).start (tr.moved mv gone).phase.held.length := by
  have split := fates.held
  rw [phase] at split
  simp only [Tracked.moved]
  rcases fates.drains with none | ⟨empty, unsettled⟩
  · -- nothing drained: the settled messages come off the front of those held
    rw [none, List.append_nil] at split
    rw [split] at held left
    obtain ⟨front, back⟩ := slice_append held
    simp only [List.length_map] at front back
    simp only [List.length_append, List.length_map] at left
    simp only [none, List.isEmpty_nil, ↓reduceIte, List.length_nil, List.range'_zero,
      List.append_nil, Nat.add_zero, split, List.length_append, List.length_map]
    exact ⟨front, back, by omega, List.range'_append_1.symm⟩
  · -- a batch drained: it is all the member holds
    rw [phase] at empty
    rw [empty, unsettled, List.nil_append, List.map_nil, List.nil_append] at split
    by_cases none : mv.taken = []
    · rw [none] at split
      simp only [none, List.isEmpty_nil, ↓reduceIte, unsettled, ← split, empty]
      rw [empty, List.length_nil] at left
      exact ⟨rfl, rfl, by simp only [List.length_nil]; omega, rfl⟩
    · have notEmpty : mv.taken.isEmpty = false := by
        cases taken : mv.taken with
        | nil => exact absurd taken none
        | cons m rest => rfl
      simp only [notEmpty, Bool.false_eq_true, ↓reduceIte, unsettled, ← split, empty]
      exact ⟨rfl, next, Nat.le_refl _, rfl⟩

/-- A move keeps a member's fates in order: plain ones until it handles a Shutdown
message, then that one and its remainder, after which it settles nothing. -/
theorem order_moved (fates : mv.Fates) (phase : mv.phase = tr.phase)
    (order : ∃ pre post, tr.fates = pre ++ post ∧ (∀ p ∈ pre, p.2.Plain) ∧
      (post = [] ∨ tr.phase = .stopped ∧ Closes post)) :
    ∃ pre post, tr.fates ++ numbered tr.start mv.settled = pre ++ post ∧
      (∀ p ∈ pre, p.2.Plain) ∧ (post = [] ∨ mv.next = .stopped ∧ Closes post) := by
  obtain ⟨pre, post, split, plain, closing⟩ := order
  rcases closing with rfl | ⟨stopped, closes⟩
  · rcases Move.settled_shape mv with plainNew | ⟨m, rest, -, stops, shape⟩
    · -- still plain
      refine ⟨pre ++ numbered tr.start mv.settled, [], by simp [split], ?_, .inl rfl⟩
      intro p mem
      rcases List.mem_append.mp mem with old | new
      · exact plain p old
      · obtain ⟨-, m, found⟩ := mem_numbered new
        exact plainNew _ found
    · -- the Shutdown message handled, then its remainder, which arrived after it
      refine ⟨pre, numbered tr.start mv.settled, by simp [split], plain, .inr ⟨stops, ?_⟩⟩
      refine ⟨tr.start, numbered (tr.start + 1) (rest.map (·, .dropped .shutdownRemainder)),
        by rw [shape]; rfl, ?_⟩
      intro p mem
      obtain ⟨after, m', found⟩ := mem_numbered mem
      simp only [List.mem_map, Prod.mk.injEq] at found
      obtain ⟨_, _, _, same⟩ := found
      exact ⟨same.symm, by omega⟩
  · -- a stopped member settles nothing more
    obtain ⟨stays, none⟩ := fates.stopped (phase.trans stopped)
    exact ⟨pre, post, by simp [split, none, numbered], plain, .inr ⟨stays, closes⟩⟩

/-- A member's own move keeps its record sound. `arrived` already holds what the move
put back; `gone` messages had left the queue before it, and the batch it drained, if
any, was the next to leave. -/
theorem Tracked.Sound.moved (sound : tr.Sound arrived gone mv.after.stopSet)
    (fates : mv.Fates) (phase : mv.phase = tr.phase) (counters : mv.before.metrics = tr.metrics)
    (next : mv.taken = (arrived.drop gone).take mv.taken.length) :
    (tr.moved mv gone).Sound arrived (gone + mv.taken.length) mv.after.stopSet := by
  obtain ⟨front, held, left, ranges⟩ := slots_moved fates phase sound.held sound.left next
  refine ⟨held, left, ?_, ?_, ?_, fates.fitting, ?_, ?_, order_moved fates phase sound.order,
    fates.signals⟩
  · show tr.drained ++ List.range' gone mv.taken.length =
      (tr.fates ++ numbered tr.start mv.settled).map Prod.fst ++
        List.range' (tr.moved mv gone).start (tr.moved mv gone).phase.held.length
    rw [sound.drained, List.map_append, numbered_map_fst, List.append_assoc, List.append_assoc,
      ranges]
  · intro j mem
    simp only [Tracked.moved, List.mem_append, List.mem_range'_1] at mem
    rcases mem with old | ⟨_, below⟩
    · have := sound.seen j old
      omega
    · exact below
  · intro p mem
    rcases List.mem_append.mp mem with old | new
    · exact sound.fits p old
    · exact numbered_fits front fates.fits p new
  · simp only [Tracked.moved, fates.published, counters, sound.published, List.countP_append,
      numbered_countP, Move.tally]
  · intro r
    simp only [Tracked.moved, fates.dropped, counters, sound.dropped, List.countP_append,
      numbered_countP, Move.tally]

end Moved

/-! ### Every state a pool reaches -/

section Reach

variable {ch : Chronicle}

theorem Chronicle.start_sound (s : World) (team : List (Worker × Producer)) :
    (Chronicle.start s team).Sound where
  queue := rfl
  bound := Nat.zero_le _
  members tr mem := by
    simp only [Chronicle.start, List.mem_map] at mem
    obtain ⟨⟨w, p⟩, -, rfl⟩ := mem
    refine ⟨rfl, Nat.le_refl _, rfl, by simp, by simp, trivial, rfl, fun r => rfl,
      ⟨[], [], rfl, by simp, .inl rfl⟩, ?_⟩
    intro m rest draining
    cases draining

/-- A member's turn keeps the pool's history sound. -/
theorem Chronicle.Sound.work {i : Nat} {tr : Tracked} {mv : Move} (sound : ch.Sound)
    (member : ch.members[i]? = some tr) (moved : tr.move ch.world = some mv) :
    Chronicle.Sound {
      world := mv.after
      members := ch.members.set i (tr.moved mv ch.gone)
      arrived := ch.arrived ++ mv.put
      gone := ch.gone + mv.taken.length } := by
  obtain ⟨made, before, phase⟩ := Member.move_made moved
  obtain ⟨_, _, effect⟩ := Move.effect made
  have mine := sound.members tr (List.mem_of_getElem? member)
  have fates := Move.fates made (phase ▸ mine.fitting)
  -- the queue the member saw is the shared one
  have law : ch.arrived.drop ch.gone ++ mv.put = mv.taken ++ mv.after.queue.items := by
    rw [← sound.queue, ← effect.queue, before]
    rfl
  obtain ⟨queue, bound, next⟩ := fifo_step sound.bound law
  have stays : ch.world.stopSet = true → mv.after.stopSet = true := by
    intro set
    apply fates.stays
    rw [before]
    exact set
  refine ⟨queue, bound, ?_⟩
  intro x mem
  rcases List.mem_or_eq_of_mem_set mem with other | rfl
  · exact (sound.members x other).grow sound.bound (Nat.le_add_right _ _) stays
  · exact (mine.grow sound.bound (Nat.le_refl _) stays).moved fates phase (by rw [before]; rfl)
      next

/-- A call on the queue by another party keeps the pool's history sound. -/
theorem Chronicle.Sound.call (sound : ch.Sound) (c : QueueCall) :
    Chronicle.Sound { ch with
      world := (exec c.act ch.world).2
      arrived := ch.arrived ++ QueueCall.accepted c (exec c.act ch.world).1
      gone := ch.gone + (QueueCall.removed (exec c.act ch.world).1).length } := by
  have law := QueueCall.contents_law ch.world c
  rw [sound.queue] at law
  obtain ⟨queue, bound, -⟩ := fifo_step sound.bound law
  refine ⟨queue, bound, fun tr mem => (sound.members tr mem).grow sound.bound
    (Nat.le_add_right _ _) ?_⟩
  rw [QueueCall.act_stopSet]
  exact id

/-- Another party setting the stop signal keeps the pool's history sound. -/
theorem Chronicle.Sound.signal (sound : ch.Sound) :
    Chronicle.Sound { ch with world := { ch.world with stopSet := true } } := by
  refine ⟨sound.queue, sound.bound, fun tr mem => ?_⟩
  have grown : tr.Sound (ch.arrived ++ []) ch.gone true :=
    (sound.members tr mem).grow sound.bound (Nat.le_refl _) (fun _ => rfl)
  rwa [List.append_nil] at grown

theorem Chronicle.Sound.turn {ch' : Chronicle} {t : Turn} (sound : ch.Sound)
    (turned : ch.turn t = some ch') : ch'.Sound := by
  cases t with
  | work i =>
    simp only [Chronicle.turn, Option.bind_eq_bind, Option.bind_eq_some_iff] at turned
    obtain ⟨tr, member, mv, moved, made⟩ := turned
    cases made
    exact sound.work member moved
  | call c =>
    cases turned
    exact sound.call c
  | signal =>
    cases turned
    exact sound.signal

/-- The history of every state a pool reaches is sound. -/
theorem Chronicle.Sound.play {ch' : Chronicle} (sound : ch.Sound) (turns : List Turn)
    (ran : ch.play turns = some ch') : ch'.Sound := by
  induction turns generalizing ch with
  | nil =>
    cases ran
    exact sound
  | cons t rest ih =>
    simp only [Chronicle.play, Option.bind_eq_some_iff] at ran
    obtain ⟨mid, turned, later⟩ := ran
    exact ih (sound.turn turned) later

end Reach

/-! ### What a member's record shows -/

section Record

variable {tr : Tracked} {arrived : List Message} {gone : Nat} {stop : Bool}

/-- A message a member dropped as a Shutdown message's remainder arrived after that
Shutdown message, the only one the member handled. -/
theorem Tracked.Sound.remainder_after (sound : tr.Sound arrived gone stop) {j : Nat}
    (dropped : (j, .dropped .shutdownRemainder) ∈ tr.fates) :
    ∃ g, g < j ∧ (g, .handled) ∈ tr.fates ∧ tr.fates.countP (·.2 = .handled) = 1 ∧
      ∃ m, arrived[g]? = some m ∧ m.kind = .shutdown := by
  obtain ⟨pre, post, split, plain, closing⟩ := sound.order
  rw [split] at dropped
  rcases List.mem_append.mp dropped with early | late
  · exact absurd (plain _ early) (by simp [Fate.Plain])
  rcases closing with rfl | ⟨-, g, rest, rfl, remainder⟩
  · cases late
  rcases List.mem_cons.mp late with same | later
  · cases same
  have handled : (g, Fate.handled) ∈ tr.fates := by rw [split]; simp
  obtain ⟨m, found, fit⟩ := sound.fits _ handled
  -- the plain fates before it and the remainder after it handle nothing
  have none_before : pre.countP (·.2 = .handled) = 0 := by
    refine List.countP_eq_zero.mpr fun p mem same => ?_
    have := plain p mem
    simp only [decide_eq_true_eq] at same
    simp [Fate.Plain, same] at this
  have none_after : rest.countP (·.2 = .handled) = 0 :=
    List.countP_eq_zero.mpr fun p mem => by simp [(remainder p mem).1]
  refine ⟨g, (remainder _ later).2, handled, ?_, m, found, fit⟩
  rw [split, List.countP_append, List.countP_cons, none_before, none_after]
  rfl

/-- A member that has taken a Shutdown message has set the stop signal, and that
message, the first it holds, arrived before every message still in the queue. -/
theorem Tracked.Sound.taken_shutdown (sound : tr.Sound arrived gone stop) {m : Message}
    {rest : List Message} (taking : tr.phase = .requeueing m rest) :
    stop = true ∧ arrived[tr.start]? = some m ∧ tr.start < gone := by
  have held := sound.held
  have left := sound.left
  rw [taking] at held left
  simp only [Phase.held, List.length_cons] at held left
  have first := congrArg (·[0]?) held
  simp only [List.getElem?_cons_zero, List.getElem?_take, Nat.zero_lt_succ, ↓reduceIte,
    List.getElem?_drop, Nat.add_zero] at first
  exact ⟨sound.signal m rest taking, first.symm, by omega⟩

/-- A stopped member has settled everything it drained: plain fates up to the
Shutdown message it handled, if any, then that one and its remainder. -/
theorem Tracked.Sound.stopped_settled (sound : tr.Sound arrived gone stop)
    (stopped : tr.phase = .stopped) :
    tr.drained = tr.fates.map Prod.fst ∧ ∃ pre post, tr.fates = pre ++ post ∧
      (∀ p ∈ pre, p.2.Plain) ∧ (post = [] ∨ Closes post) := by
  have drained := sound.drained
  simp only [stopped, Phase.held, List.length_nil, List.range'_zero, List.append_nil] at drained
  obtain ⟨pre, post, split, plain, closing⟩ := sound.order
  exact ⟨drained, pre, post, split, plain, closing.imp id And.right⟩

end Record

end Pool

open Pool in
/-- Shutting a pool down settles the work queued ahead of the Shutdown message. Take
any workers, each with its own producer, sharing one world, and any turns: their
steps in any order, with other parties' calls on the queue under any lock outcome
and the stop signal set by others, as long as no step fails. In the state reached,
the queue holds the messages that arrived and have not left, in order of arrival,
and for every member:

* a message it dropped as a Shutdown message's remainder arrived after that Shutdown
  message, the only one it handled;
* once it has taken a Shutdown message, the stop signal is set and that message, the
  first it holds, arrived before every message still in the queue;
* once it has stopped, it has settled every message it drained: up to the Shutdown
  message it handled, if any, each was published or dropped after its last attempt or
  with a broker-detail request, and after it each was dropped as its remainder;
* only Data and Sensitive messages were published or given up on, only Shutdown
  messages handled, and its counters are the tallies of its fates. -/
theorem pool_shutdown_settles_earlier_work {s : World} {team : List (Worker × Producer)}
    {turns : List Turn} {ch : Chronicle} (ran : (Chronicle.start s team).play turns = some ch) :
    ch.world.queue.items = ch.arrived.drop ch.gone ∧
      ∀ tr ∈ ch.members,
        (∀ j, (j, .dropped .shutdownRemainder) ∈ tr.fates →
          ∃ g, g < j ∧ (g, .handled) ∈ tr.fates ∧ tr.fates.countP (·.2 = .handled) = 1 ∧
            ∃ m, ch.arrived[g]? = some m ∧ m.kind = .shutdown) ∧
        (∀ m rest, tr.phase = .requeueing m rest →
          ch.world.stopSet = true ∧ ch.arrived[tr.start]? = some m ∧ tr.start < ch.gone) ∧
        (tr.phase = .stopped → tr.drained = tr.fates.map Prod.fst ∧
          ∃ pre post, tr.fates = pre ++ post ∧ (∀ p ∈ pre, p.2.Plain) ∧
            (post = [] ∨ Closes post)) ∧
        (∀ p ∈ tr.fates, ∃ m, ch.arrived[p.1]? = some m ∧ p.2.Fits m) ∧
        tr.metrics.published = tr.fates.countP (·.2 = .published) ∧
        ∀ r, tr.metrics.droppedFor r = tr.fates.countP (·.2 = .dropped r) := by
  have sound := (Chronicle.start_sound s team).play turns ran
  refine ⟨sound.queue, fun tr mem => ?_⟩
  have record := sound.members tr mem
  exact ⟨fun j dropped => record.remainder_after dropped,
    fun m rest taking => record.taken_shutdown taking, record.stopped_settled, record.fits,
    record.published, record.dropped⟩

open Pool in
/-- Two workers share a queue holding a Shutdown message and a broker-detail request:
the first drains both, handles the Shutdown message and drops the request as its
remainder; the second drains the copy and stops too. -/
theorem two_members_stop_in_turn :
    let w : Worker := {
      threadNum := .int 0
      label := "ktp-tid-1"
      settings := {}
      policy := { interval := .int 1 }
      publishTimeout := .int 6 }
    let s : World := {
      queue := {
        lockTimeout := 10.0
        waitOverflows := false
        items := [{ kind := .shutdown }, { kind := .brokerDetails }] } }
    ∃ ch, (Chronicle.start s [(w, {}), (w, {})]).play
        [.work 0, .work 0, .work 0, .work 1, .work 1, .work 1] = some ch ∧
      ch.world.queue.items = ch.arrived.drop ch.gone ∧
      ∀ tr ∈ ch.members,
        (∀ j, (j, .dropped .shutdownRemainder) ∈ tr.fates →
          ∃ g, g < j ∧ (g, .handled) ∈ tr.fates ∧ tr.fates.countP (·.2 = .handled) = 1 ∧
            ∃ m, ch.arrived[g]? = some m ∧ m.kind = .shutdown) ∧
        (∀ m rest, tr.phase = .requeueing m rest →
          ch.world.stopSet = true ∧ ch.arrived[tr.start]? = some m ∧ tr.start < ch.gone) ∧
        (tr.phase = .stopped → tr.drained = tr.fates.map Prod.fst ∧
          ∃ pre post, tr.fates = pre ++ post ∧ (∀ p ∈ pre, p.2.Plain) ∧
            (post = [] ∨ Closes post)) ∧
        (∀ p ∈ tr.fates, ∃ m, ch.arrived[p.1]? = some m ∧ p.2.Fits m) ∧
        tr.metrics.published = tr.fates.countP (·.2 = .published) ∧
        ∀ r, tr.metrics.droppedFor r = tr.fates.countP (·.2 = .dropped r) := by
  intro w s
  obtain ⟨ch, ran⟩ : ∃ ch, (Chronicle.start s [(w, {}), (w, {})]).play
      [.work 0, .work 0, .work 0, .work 1, .work 1, .work 1] = some ch := ⟨_, rfl⟩
  exact ⟨ch, ran, pool_shutdown_settles_earlier_work ran⟩

open Pool in
/-- A Data message between two Shutdown messages of one batch is drained ahead of a
Shutdown message and still dropped: it goes with the first one's remainder. The
fourth message to arrive is the first one's copy. -/
theorem remainder_between_shutdowns :
    let w : Worker := {
      threadNum := .int 0
      label := "ktp-tid-1"
      settings := {}
      policy := { interval := .int 1 }
      publishTimeout := .int 6 }
    let s : World := {
      queue := {
        lockTimeout := 10.0
        waitOverflows := false
        items := [{ kind := .shutdown }, { kind := .data }, { kind := .shutdown }] } }
    ∃ ch, (Chronicle.start s [(w, {})]).play [.work 0, .work 0, .work 0] = some ch ∧
      ∃ tr ∈ ch.members, tr.phase = .stopped ∧
        ch.arrived.map (·.kind) = [.shutdown, .data, .shutdown, .shutdown] ∧
        tr.drained = [0, 1, 2] ∧
        tr.fates = [(0, .handled), (1, .dropped .shutdownRemainder),
          (2, .dropped .shutdownRemainder)] := by
  intro w s
  exact ⟨_, rfl, _, List.mem_singleton_self _, rfl, rfl, rfl, rfl⟩

end PublishPool
