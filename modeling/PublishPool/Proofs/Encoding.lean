import PublishPool.Worker.Run

/-!
Which texts and messages have a UTF-8 form.

A text has one exactly when it holds no lone surrogate (`Text.encode_ok_iff`). So a
message's headers convert exactly when none of their values holds one
(`Worker.clientHeaders_ok_iff`), and a message can be produced exactly when its
payload can be written and its key holds none (`Message.wireForm_ok_iff`).
-/

namespace PublishPool

/-- A traversal that may fail succeeds exactly when it succeeds at every element. -/
theorem mapM_ok_iff {α β ε : Type} (f : α → Except ε β) (xs : List α) :
    (∃ ys, xs.mapM f = .ok ys) ↔ ∀ x ∈ xs, ∃ y, f x = .ok y := by
  induction xs with
  | nil => simp [pure, Except.pure]
  | cons x rest ih =>
    rw [List.mapM_cons]
    cases first : f x with
    | error e => simp [bind, Except.bind, first]
    | ok y =>
      cases later : rest.mapM f with
      | error e =>
        -- the rest fails at one of its elements
        have failing : ¬ ∀ x ∈ rest, ∃ y, f x = .ok y := by
          rw [← ih, later]
          simp
        simp only [bind, Except.bind, reduceCtorEq, exists_false, false_iff]
        exact fun all => failing fun x' mem => all x' (List.mem_cons_of_mem x mem)
      | ok ys =>
        have all : ∀ x ∈ rest, ∃ y, f x = .ok y := ih.mp ⟨ys, later⟩
        simp only [bind, Except.bind, pure, Except.pure, Except.ok.injEq, exists_eq',
          List.mem_cons, forall_eq_or_imp, true_iff]
        exact ⟨⟨y, first⟩, all⟩

namespace Text

/-- Whether a text holds no lone surrogate. -/
def surrogateFree (s : String) : Bool := (points s).all fun n => !isSurrogate n

/-- A text has a UTF-8 form exactly when it holds no lone surrogate. -/
theorem encode_ok_iff {s : String} :
    (∃ bytes, encode s = .ok bytes) ↔ surrogateFree s = true := by
  have found : (points s).findIdx? isSurrogate = none ↔ surrogateFree s = true := by
    simp [List.findIdx?_eq_none_iff, surrogateFree]
  unfold encode
  cases first : (points s).findIdx? isSurrogate <;> simp [← found, first]

@[simp] theorem surrogateFree_empty : surrogateFree "" = true := by
  simp [surrogateFree, points, pointsOf, pointsFrom]

end Text

namespace Worker

/-- Whether no header value of a message holds a lone surrogate. -/
def headersFree (m : Message) : Bool :=
  m.headers.all fun hs => hs.all fun h => Text.surrogateFree h.2

/-- A message's headers convert exactly when none of their values holds a lone
surrogate. -/
theorem clientHeaders_ok_iff {m : Message} :
    (∃ headers, clientHeaders m = .ok headers) ↔ headersFree m = true := by
  unfold clientHeaders convertHeaders headersFree
  cases m.headers with
  | none => simp
  | some hs =>
    simp only [Option.map_some, Option.all_some, List.all_eq_true, mapM_ok_iff,
      List.mem_map, forall_exists_index, and_imp, forall_apply_eq_imp_iff₂]
    -- each header converts when its value encodes
    refine forall_congr' fun h => imp_congr_right fun _ => ?_
    rw [← Text.encode_ok_iff]
    cases Text.encode h.2 <;> simp [Functor.map, Except.map]

end Worker

namespace Message

/-- A message can be produced exactly when its payload can be written and its key
holds no lone surrogate. -/
theorem wireForm_ok_iff {m : Message} :
    (∃ form, m.wireForm = .ok form) ↔
      (∃ value, m.payload.toValue.wireBytes = .ok value) ∧ Text.surrogateFree m.key = true := by
  unfold wireForm
  cases written : m.payload.toValue.wireBytes with
  | error f => simp [bind, Except.bind]
  | ok value =>
    by_cases empty : m.key.isEmpty = true
    · have blank : m.key = "" := String.isEmpty_iff.mp empty
      simp [bind, Except.bind, pure, Except.pure, blank]
    · rw [← Text.encode_ok_iff]
      cases Text.encode m.key <;>
        simp [bind, Except.bind, pure, Except.pure, empty, Functor.map, Except.map]

end Message

end PublishPool
