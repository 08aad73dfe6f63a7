import PublishPool.Proofs.RealLibrary
import PublishPool.Retry
import PublishPool.Settings.Load

/-!
Capped exponential backoff.

A pool's retry policy waits `interval` after the first failure and `multiplier` times
longer after each further one, up to the cap, the larger of the interval and the longest
wait (`Settings.retryCap`). The growth stops at the cap by a test: once `a - 1` reaches
`log (cap / interval) / log multiplier` (`Settings.retryReach`), the wait after `a` failures
is the cap, and before that it is `min (interval * multiplier ^ (a - 1)) cap`, or the
failure of the power (`RetryPolicy.delayWith_steep`).

The policy computes in doubles, and the waits keep their order all the same: products and
quotients of doubles are the exact ones rounded to nearest, and rounding is monotone
(`Double.valueOf?_mul`, `Double.valueOf?_div`). For settings that loaded and a maths
library whose power of a double above one to a positive natural exponent is at least one
and grows with the exponent, and whose logarithm of such a double is not zero
(`MathLib.Lawful`), every wait the policy answers lies between the interval and the cap, a
later attempt never waits less, and once a wait is the cap every later one is
(`delay_capped_monotone`). The library that rounds the real logarithm and power once is
such a library (`MathLib.nearest_lawful`).

An answer is not promised. When `cap / interval` overflows to infinity the test never
passes, the power is taken however large the attempt, and it fails once it overflows. And
the test compares rounded numbers: near an integral logarithm it can pass one attempt
before `interval * multiplier ^ (a - 1)` reaches the cap, and that wait is the cap.
-/

namespace PublishPool

open Double Float.Model Float.Model.UnpackedFloat Number

/-! ### Doubles above a double with a value -/

namespace Double

/-- Above a form that is zero or positive lie only such forms: NaN is above nothing, and
forms below zero are above no form that is zero or positive. -/
theorem isSome_value?_of_le {u w : UnpackedFloat} {b : WithTop ℚ} (hw : Canonical w)
    (hb : value? w = some b) (le : (w.compare u).any (·.isLE)) : (value? u).isSome := by
  have signs : compare Sign.positive Sign.negative = .gt := rfl
  rcases eq_of_value?_eq_some hw hb with ⟨rfl, -⟩ | ⟨s, rfl, -⟩ | ⟨m, e, pos, rfl, -⟩ <;>
  cases u with
  | infinity s' => cases s' <;> simp_all [value?, UnpackedFloat.compare]
  | notANumber => simp [UnpackedFloat.compare] at le
  | zero s' => rfl
  | finite s' => cases s' <;> simp_all [value?, UnpackedFloat.compare]

variable {x y : Float} {a b : WithTop ℚ}

/-- A double at least a double with a value has a value, and not a smaller one. -/
theorem exists_value_of_le (hy : valueOf? y = some b) (le : y ≤ x) :
    ∃ a, valueOf? x = some a ∧ b ≤ a := by
  have valued : (valueOf? x).isSome :=
    isSome_value?_of_le (canonical y) hy ((le_iff_compare y x).mp le)
  obtain ⟨a, hx⟩ := Option.isSome_iff_exists.mp valued
  exact ⟨a, hx, (le_iff hy hx).mp le⟩

theorem float_le_of_lt (lt : y < x) : y ≤ x := by
  rw [le_iff_compare, (lt_iff_compare y x).mp lt]
  rfl

/-- A double above a double with a value has a larger value. -/
theorem exists_value_of_lt (hy : valueOf? y = some b) (lt : y < x) :
    ∃ a, valueOf? x = some a ∧ b < a := by
  obtain ⟨a, hx, -⟩ := exists_value_of_le hy (float_le_of_lt lt)
  exact ⟨a, hx, (lt_iff hy hx).mp lt⟩

theorem valueOf?_zero : valueOf? 0 = some 0 := rfl

theorem valueOf?_one : valueOf? 1 = some 1 := by
  rw [show valueOf? 1 = some (((2 ^ 52 : ℕ) * 2 ^ (-52 : ℤ) : ℚ) : WithTop ℚ) from rfl]
  norm_num

theorem valueOf?_one_point_zero : valueOf? 1.0 = some 1 := by
  rw [show valueOf? 1.0 = some (((2 ^ 52 : ℕ) * 2 ^ (-52 : ℤ) : ℚ) : WithTop ℚ) from rfl]
  norm_num

/-- The double nearest to a thousandth, exactly. -/
theorem valueOf?_thousandth :
    valueOf? 0.001 = some (((4611686018427388 : ℕ) * 2 ^ (-62 : ℤ) : ℚ) : WithTop ℚ) := rfl

/-- The only double with an infinite value is positive infinity. -/
theorem unpack_of_valueOf?_top (hx : valueOf? x = some ⊤) :
    x.toModel.unpack = .infinity .positive := by
  rcases eq_of_value?_eq_some (canonical x) hx with ⟨ex, -⟩ | ⟨s, -, zero⟩ |
      ⟨m, e, pos, -, -, -, finite⟩
  · exact ex
  · exact absurd zero WithTop.top_ne_zero
  · exact absurd finite WithTop.top_ne_coe

/-- Positive infinity over positive infinity is NaN. -/
theorem unpack_div_top (hx : valueOf? x = some ⊤) (hy : valueOf? y = some ⊤) :
    (x / y).toModel.unpack = .notANumber := by
  rw [unpack_div, unpack_of_valueOf?_top hx, unpack_of_valueOf?_top hy]
  exact unpack_pack .notANumber

end Double

/-! ### Values compared -/

@[simp] theorem Num.ofValue?_float (x : Float) : Num.ofValue? (.float x) = some (.float x) := rfl

@[simp] theorem Num.ofValue?_int (n : ℤ) : Num.ofValue? (.int n) = some (.int n) := rfl

@[simp] theorem Num.toValue_int (n : ℤ) : (Num.int n).toValue = .int n := rfl

@[simp] theorem Num.toValue_float (x : Float) : (Num.float x).toValue = .float x := rfl

@[simp] theorem Num.ofValue?_toValue (n : Num) : Num.ofValue? n.toValue = some n := by
  cases n <;> rfl

section Floats

variable {x y : Float} {a b : WithTop ℚ}

/-- An order test of two doubles with values tests their values. -/
theorem compare_floats (c : Comparison) (hx : valueOf? x = some a) (hy : valueOf? y = some b) :
    Value.compare c (.float x) (.float y) = .ok (c.holds (compare a b)) := by
  simp only [Value.compare, Num.ofValue?_float, order_floats hx hy]

/-- The larger of two doubles with values is the second exactly when its value is larger. -/
theorem maximum_floats (hx : valueOf? x = some a) (hy : valueOf? y = some b) :
    Value.maximum (.float x) (.float y) = .ok (.float (if a < b then y else x)) := by
  have test : (compare b a == .gt) = decide (a < b) := by
    rw [Bool.eq_iff_iff, beq_iff_eq, compare_gt_iff_gt, decide_eq_true_iff]
  simp only [Value.maximum, compare_floats .gt hy hx, Comparison.holds, test, bind, Except.bind]
  by_cases lt : a < b <;> simp [lt, pure, Except.pure]

/-- The smaller of two doubles with values is the second exactly when its value is smaller. -/
theorem minimum_floats (hx : valueOf? x = some a) (hy : valueOf? y = some b) :
    Value.minimum (.float x) (.float y) = .ok (.float (if b < a then y else x)) := by
  have test : (compare b a == .lt) = decide (b < a) := by
    rw [Bool.eq_iff_iff, beq_iff_eq, compare_lt_iff_lt, decide_eq_true_iff]
  simp only [Value.minimum, compare_floats .lt hy hx, Comparison.holds, test, bind, Except.bind]
  by_cases lt : b < a <;> simp [lt, pure, Except.pure]

/-- The larger of two doubles with values, the first on a tie, is their `max`. -/
theorem maximum_eq_max (hx : valueOf? x = some a) (hy : valueOf? y = some b) :
    Value.maximum (.float x) (.float y) = .ok (.float (max y x)) := by
  rw [maximum_floats hx hy]
  show _ = Except.ok (Value.float (if y ≤ x then x else y))
  by_cases lt : a < b
  · rw [if_pos lt, if_neg fun le => not_le.mpr lt ((le_iff hy hx).mp le)]
  · rw [if_neg lt, if_pos ((le_iff hy hx).mpr (not_lt.mp lt))]

/-- The smaller of two doubles with values, the first on a tie, is their `min`. -/
theorem minimum_eq_min (hx : valueOf? x = some a) (hy : valueOf? y = some b) :
    Value.minimum (.float x) (.float y) = .ok (.float (min x y)) := by
  rw [minimum_floats hx hy]
  show _ = Except.ok (Value.float (if x ≤ y then x else y))
  by_cases lt : b < a
  · rw [if_pos lt, if_neg fun le => not_le.mpr lt ((le_iff hx hy).mp le)]
  · rw [if_neg lt, if_pos ((le_iff hx hy).mpr (not_lt.mp lt))]

/-- The double a choice by value picks has the value the choice picks. -/
theorem valueOf?_ite {p : Prop} [Decidable p] (hx : valueOf? x = some a)
    (hy : valueOf? y = some b) : valueOf? (if p then y else x) = some (if p then b else a) := by
  split_ifs <;> assumption

/-- The larger of two doubles has the larger value. -/
theorem valueOf?_max (hx : valueOf? x = some a) (hy : valueOf? y = some b) :
    valueOf? (max x y) = some (max a b) := by
  show valueOf? (if x ≤ y then y else x) = _
  rw [valueOf?_ite hx hy, max_def]
  by_cases le : a ≤ b
  · rw [if_pos ((le_iff hx hy).mpr le), if_pos le]
  · rw [if_neg fun h => le ((le_iff hx hy).mp h), if_neg le]

/-- The smaller of two doubles has the smaller value. -/
theorem valueOf?_min (hx : valueOf? x = some a) (hy : valueOf? y = some b) :
    valueOf? (min x y) = some (min a b) := by
  show valueOf? (if x ≤ y then x else y) = _
  rw [valueOf?_ite hy hx, min_def]
  by_cases le : a ≤ b
  · rw [if_pos ((le_iff hx hy).mpr le), if_pos le]
  · rw [if_neg fun h => le ((le_iff hx hy).mp h), if_neg le]

end Floats

/-- An order test of an integer and a double is the exact order. -/
theorem compare_int_float (c : Comparison) (n : ℤ) (x : Float) :
    Value.compare c (.int n) (.float x) = .ok ((Num.compareIntFloat n x).any c.holds) := by
  simp only [Value.compare, Num.ofValue?_int, Num.ofValue?_float, Num.order]
  cases Num.compareIntFloat n x <;> rfl

theorem holds_ge_compare (n n' : ℤ) : Comparison.ge.holds (compare n n') = decide (n' ≤ n) := by
  rw [Comparison.holds, Bool.eq_iff_iff, bne_iff_ne, ne_eq, compare_lt_iff_lt, not_lt,
    decide_eq_true_iff]

/-- Once an integer is at least a double, every larger integer is. -/
theorem compareIntFloat_ge_mono {n n' : ℤ} {x : Float} (le : n ≤ n')
    (reached : (Num.compareIntFloat n x).any Comparison.ge.holds) :
    (Num.compareIntFloat n' x).any Comparison.ge.holds := by
  unfold Num.compareIntFloat at reached ⊢
  generalize Binary.ofFloat x = parts at reached ⊢
  cases parts with
  | nan => exact reached
  | inf neg => exact reached
  | zero neg =>
    simp only [Option.any_some, holds_ge_compare, decide_eq_true_eq] at reached ⊢
    omega
  | finite neg m q =>
    dsimp only at reached ⊢
    -- below the last place the integer is scaled by a power of two, which keeps its order
    have scaled : n * (Nat.pow 2 (-q).toNat : ℕ) ≤ n' * (Nat.pow 2 (-q).toNat : ℕ) :=
      Int.mul_le_mul_of_nonneg_right le (Int.natCast_nonneg _)
    split_ifs at reached ⊢ <;>
      simp only [Option.any_some, holds_ge_compare, decide_eq_true_eq] at reached ⊢ <;>
      omega

/-! ### Retry settings that loaded -/

namespace Settings

/-- What loading promises of the retry settings: an interval above a thousandth, a
multiplier of at least one and a longest wait above zero. -/
structure RetryChecked (s : Settings) : Prop where
  interval : 0.001 < s.publishRetryIntervalSec
  multiplier : 1 ≤ s.retryBackoffMultiplier
  longest : 0 < s.retryMaxIntervalSec

variable {src : Sources} {cfg : Settings}

/-- A setting that loaded is its default when it is not given, and passed its rule when
it is. -/
theorem field_eq_ok {α : Type} {name : String} {default x : α}
    {rule : Value → Except Issue.Kind α} (ok : field src name default rule = .ok x) :
    x = default ∨ ∃ v, rule v = .ok x := by
  unfold field at ok
  split at ok
  · exact .inl (Except.ok.inj ok).symm
  · rename_i v _
    unfold Schema.atField at ok
    split at ok
    · rename_i y ruled
      exact .inr ⟨v, ruled.trans (congrArg Except.ok (Except.ok.inj ok))⟩
    · cases ok

/-- A double that passed the check `> bound` is above the bound. -/
theorem floatAbove_ok {bound x : Float} {printed : String} {v : Value}
    (ok : floatAbove bound printed v = .ok x) : bound < x := by
  unfold floatAbove at ok
  cases read : Schema.float v with
  | error k => simp [read, bind, Except.bind] at ok
  | ok y =>
    simp only [read, bind, Except.bind] at ok
    -- the failed check throws, which `split_ifs` discards
    split_ifs at ok with above
    cases ok
    exact above

/-- A double that passed the check `≥ bound` is at least the bound. -/
theorem floatAtLeast_ok {bound x : Float} {printed : String} {v : Value}
    (ok : floatAtLeast bound printed v = .ok x) : bound ≤ x := by
  unfold floatAtLeast at ok
  cases read : Schema.float v with
  | error k => simp [read, bind, Except.bind] at ok
  | ok y =>
    simp only [read, bind, Except.bind] at ok
    -- the failed check throws, which `split_ifs` discards
    split_ifs at ok with above
    cases ok
    exact above

/-- A load that succeeds keeps retry settings that passed their checks. -/
theorem load_retryChecked (loaded : load src = .ok cfg) : cfg.RetryChecked := by
  unfold load at loaded
  cases topics : topicsField src with
  | error f =>
    rw [topics] at loaded
    cases loaded
  | ok checked =>
    rw [topics] at loaded
    simp only [bind, Except.bind] at loaded
    -- as for the lists: only the case where every field passed builds settings
    split at loaded
    · -- the checks of the plain fields, in declaration order: the retry interval is the
      -- tenth from the end, the multiplier and the longest wait the fifth and fourth
      rename_i interval _ _ _ _ multiplier longest _ _ _
      injection loaded with built
      subst built
      refine ⟨?_, ?_, ?_⟩
      · rcases field_eq_ok interval with rfl | ⟨v, ruled⟩
        · exact (by decide +kernel : (0.001 : Float) < 1.0)
        · exact floatAbove_ok ruled
      · rcases field_eq_ok multiplier with rfl | ⟨v, ruled⟩
        · exact (by decide +kernel : (1 : Float) ≤ 1.0)
        · exact floatAtLeast_ok ruled
      · rcases field_eq_ok longest with rfl | ⟨v, ruled⟩
        · exact (by decide +kernel : (0 : Float) < 30.0)
        · exact floatAbove_ok ruled
    · cases loaded

end Settings

/-! ### Lawful maths libraries -/

/-- What the retry delay needs of a maths library. -/
structure MathLib.Lawful (lib : MathLib) : Prop where
  /-- the logarithm of a double above one is not zero -/
  log_ne_zero : ∀ x : Float, 1 < x → (lib.log x == 0) = false
  /-- a double above one to a positive natural power is at least one -/
  one_le_pow : ∀ x : Float, 1 < x → ∀ k : ℕ, 0 < k → 1 ≤ lib.pow x (ofInt k)
  /-- and the power does not shrink as the exponent grows -/
  pow_le_pow : ∀ x : Float, 1 < x → ∀ k l : ℕ, 0 < k → k ≤ l →
    lib.pow x (ofInt k) ≤ lib.pow x (ofInt l)

@[simp] theorem Sign.positive_beq_negative : (Sign.positive == Sign.negative) = false := rfl

namespace Num

variable (lib : MathLib) {x : Float} {c : WithTop ℚ}

/-- The logarithm of a positive double is the library's, and that of positive infinity is
itself. -/
theorem logFloat_of_pos (hx : valueOf? x = some c) (pos : 0 < c) :
    logFloat lib x = .ok (if c = ⊤ then x else lib.log x) := by
  unfold logFloat
  rw [ofFloat_eq_partsOf]
  unfold valueOf? at hx
  rcases eq_of_value?_eq_some (canonical x) hx with ⟨ex, rfl⟩ | ⟨s, -, rfl⟩ |
      ⟨m, e, p, ex, -, -, rfl⟩
  · simp [ex, partsOf, Sign.positive_beq_negative]
  · exact absurd pos (lt_irrefl 0)
  · rw [if_neg WithTop.coe_ne_top]
    simp [ex, partsOf, Sign.positive_beq_negative]

/-- The logarithm of NaN is NaN. -/
theorem logFloat_of_nan (nan : x.toModel.unpack = .notANumber) : logFloat lib x = .ok x := by
  simp [logFloat, ofFloat_eq_partsOf, nan, partsOf]

/-- A double above one to a positive natural power: infinity stays, and otherwise the
library's power is taken unless it overflows. -/
theorem powFloat_of_one_lt (hx : valueOf? x = some c) (above : 1 < c) {n : ℕ} (pos : 0 < n) :
    powFloat lib x n =
      if c = ⊤ then .ok x
      else if isFinite (lib.pow x (ofInt n)) then .ok (lib.pow x (ofInt n))
      else .error Fault.outOfRange := by
  have notOne : (x == 1) = false :=
    Bool.eq_false_iff.mpr fun same => above.ne' ((beq_iff hx valueOf?_one).mp same)
  unfold powFloat
  rw [if_neg pos.ne', ofFloat_eq_partsOf]
  unfold valueOf? at hx
  rcases eq_of_value?_eq_some (canonical x) hx with ⟨ex, rfl⟩ | ⟨s, -, rfl⟩ |
      ⟨m, e, p, ex, -, -, rfl⟩
  · simp [ex, partsOf, Sign.positive_beq_negative]
  · exact absurd above (not_lt.mpr zero_le_one)
  · rw [if_neg WithTop.coe_ne_top]
    simp [ex, partsOf, notOne]

/-- A power of a double that is taken is the power of the double as a double. -/
theorem pow_float_eq_ok {n : ℕ} {r : Num} (ok : pow lib (.float x) n = .ok r) :
    ∃ g, powFloat lib x n = .ok g ∧ r = .float g := by
  simp only [pow, bind, Except.bind] at ok
  split at ok
  · cases ok
  · cases taken : powFloat lib x n with
    | error f => simp [taken, Except.map] at ok
    | ok g =>
      simp only [taken, Except.map, Except.ok.injEq] at ok
      exact ⟨g, rfl, ok.symm⟩

/-- A power of a double is a double, or fails. -/
theorem pow_float_cases (x : Float) (n : ℕ) :
    (∃ g, pow lib (.float x) n = .ok (.float g)) ∨ ∃ f, pow lib (.float x) n = .error f := by
  cases taken : pow lib (.float x) n with
  | error f => exact .inr ⟨f, rfl⟩
  | ok r =>
    obtain ⟨g, -, rfl⟩ := pow_float_eq_ok lib taken
    exact .inl ⟨g, rfl⟩

end Num

namespace MathLib.Lawful

variable {lib : MathLib} {x : Float} {c : WithTop ℚ} {n n' : ℕ} {g g' : Float}

/-- A power of a double above one that is taken is at least one. -/
theorem powFloat_value (lawful : lib.Lawful) (hx : valueOf? x = some c) (above : 1 < c)
    (ok : Num.powFloat lib x n = .ok g) : ∃ ag, valueOf? g = some ag ∧ 1 ≤ ag := by
  rcases Nat.eq_zero_or_pos n with rfl | pos
  · simp only [Num.powFloat, if_true, Except.ok.injEq] at ok
    subst ok
    exact ⟨1, valueOf?_one, le_rfl⟩
  · rw [Num.powFloat_of_one_lt lib hx above pos] at ok
    split_ifs at ok with top finite
    · cases ok
      exact ⟨c, hx, above.le⟩
    · cases ok
      exact exists_value_of_le valueOf?_one
        (lawful.one_le_pow x ((lt_iff valueOf?_one hx).mpr above) n pos)

/-- Powers of a double above one that are taken grow with the exponent. -/
theorem powFloat_mono (lawful : lib.Lawful) (hx : valueOf? x = some c) (above : 1 < c)
    (le : n ≤ n') (ok : Num.powFloat lib x n = .ok g) (ok' : Num.powFloat lib x n' = .ok g') :
    g ≤ g' := by
  obtain ⟨ag', hg', one'⟩ := lawful.powFloat_value hx above ok'
  rcases Nat.eq_zero_or_pos n with rfl | pos
  · simp only [Num.powFloat, if_true, Except.ok.injEq] at ok
    subst ok
    exact (le_iff valueOf?_one hg').mpr one'
  · rw [Num.powFloat_of_one_lt lib hx above pos] at ok
    rw [Num.powFloat_of_one_lt lib hx above (pos.trans_le le)] at ok'
    split_ifs at ok ok' with top finite finite'
    · cases ok
      cases ok'
      exact (le_iff hx hx).mpr le_rfl
    · cases ok
      cases ok'
      exact lawful.pow_le_pow x ((lt_iff valueOf?_one hx).mpr above) n n' pos le

end MathLib.Lawful

/-- The library that rounds the real logarithm and power once is lawful. -/
theorem MathLib.nearest_lawful : MathLib.nearest.Lawful where
  log_ne_zero x above := by
    obtain ⟨a, hx, gt⟩ := exists_value_of_lt valueOf?_one above
    obtain ⟨b, hb, pos⟩ := MathLib.nearest.log_value hx gt
    exact Bool.eq_false_iff.mpr fun same => pos.ne' ((beq_iff hb valueOf?_zero).mp same)
  one_le_pow x above k _ := by
    obtain ⟨a, hx, gt⟩ := exists_value_of_lt valueOf?_one above
    obtain ⟨b, hb, one⟩ := MathLib.nearest.pow_value hx gt k
    exact (le_iff valueOf?_one hb).mpr one
  pow_le_pow x above _ _ _ le := by
    obtain ⟨a, hx, gt⟩ := exists_value_of_lt valueOf?_one above
    exact MathLib.nearest.pow_le_pow hx gt le

/-! ### The values of a loaded policy -/

namespace Settings

/-- The longest wait of a policy from settings: the larger of the interval and the longest
wait given. -/
def retryCap (s : Settings) : Float := max s.publishRetryIntervalSec s.retryMaxIntervalSec

/-- The number of further failures after which the wait of a policy from settings stops
growing: `log (cap / interval) / log multiplier`, as the policy computes it. -/
def retryReach (s : Settings) (lib : MathLib) : Except Fault Float :=
  Num.logBase lib (.float (s.retryCap / s.publishRetryIntervalSec))
    (.float s.retryBackoffMultiplier)

/-- The wait of a policy from settings grown by `n` further failures: the interval times
the multiplier to the `n`, unless the cap is smaller. -/
def grownWait (s : Settings) (lib : MathLib) (n : ℕ) : Except Fault Value := do
  let growth ← Num.pow lib (.float s.retryBackoffMultiplier) n
  let grown ← Num.mul (.float s.publishRetryIntervalSec) growth
  Value.minimum grown.toValue (.float s.retryCap)

/-- The values of the retry doubles: a positive interval, a multiplier of at least one, and
a longest wait. -/
structure RetryValues (s : Settings) (interval multiplier longest : WithTop ℚ) : Prop where
  interval_eq : valueOf? s.publishRetryIntervalSec = some interval
  interval_pos : 0 < interval
  multiplier_eq : valueOf? s.retryBackoffMultiplier = some multiplier
  one_le_multiplier : 1 ≤ multiplier
  longest_eq : valueOf? s.retryMaxIntervalSec = some longest

/-- Checked retry settings have values. -/
theorem RetryChecked.values {s : Settings} (checked : s.RetryChecked) :
    ∃ interval multiplier longest, s.RetryValues interval multiplier longest := by
  obtain ⟨ai, hi, above⟩ := exists_value_of_lt valueOf?_thousandth checked.interval
  obtain ⟨am, hm, one⟩ := exists_value_of_le valueOf?_one checked.multiplier
  obtain ⟨aM, hM, -⟩ := exists_value_of_lt valueOf?_zero checked.longest
  have thousandth : (0 : WithTop ℚ) ≤ (((4611686018427388 : ℕ) * 2 ^ (-62 : ℤ) : ℚ) : WithTop ℚ) :=
    WithTop.coe_nonneg.mpr (by positivity)
  exact ⟨ai, am, aM, hi, thousandth.trans_lt above, hm, one, hM⟩

namespace RetryValues

variable {s : Settings} {lib : MathLib} {ai am aM : WithTop ℚ}

/-- The cap the policy computes is the larger of the interval and the longest wait. -/
theorem maximum_eq (vals : s.RetryValues ai am aM) :
    Value.maximum (.float s.retryMaxIntervalSec) (.float s.publishRetryIntervalSec) =
      .ok (.float s.retryCap) :=
  maximum_eq_max vals.longest_eq vals.interval_eq

theorem valueOf?_retryCap (vals : s.RetryValues ai am aM) :
    valueOf? s.retryCap = some (max ai aM) :=
  valueOf?_max vals.interval_eq vals.longest_eq

/-- The multiplier is tested against one by value. -/
theorem compare_multiplier (vals : s.RetryValues ai am aM) :
    Value.compare .le (.float s.retryBackoffMultiplier) (.float 1.0) = .ok (decide (am ≤ 1)) := by
  rw [compare_floats .le vals.multiplier_eq valueOf?_one_point_zero, Comparison.holds]
  congr 1
  rw [Bool.eq_iff_iff, bne_iff_ne, ne_eq, compare_gt_iff_gt, not_lt, decide_eq_true_iff]

theorem interval_ne_zero (vals : s.RetryValues ai am aM) :
    (s.publishRetryIntervalSec == 0) = false :=
  Bool.eq_false_iff.mpr fun same =>
    vals.interval_pos.ne' ((beq_iff vals.interval_eq valueOf?_zero).mp same)

/-- The reach is computed without a fault: the ratio of the cap to the interval is at least
one, or NaN when both are infinite, and the logarithm of the multiplier is not zero. -/
theorem retryReach_ok (vals : s.RetryValues ai am aM) (lawful : lib.Lawful) (above : 1 < am) :
    ∃ reach, s.retryReach lib = .ok reach := by
  have hc := vals.valueOf?_retryCap
  have num : ∃ r, Num.logFloat lib (s.retryCap / s.publishRetryIntervalSec) = .ok r := by
    by_cases top : ai = ⊤
    · subst top
      rw [max_top_left] at hc
      exact ⟨_, Num.logFloat_of_nan lib (unpack_div_top hc vals.interval_eq)⟩
    · obtain ⟨q, rfl⟩ := WithTop.ne_top_iff_exists.mp top
      obtain ⟨r, hr, one⟩ := one_le_valueOf?_div hc vals.interval_eq
        (WithTop.coe_pos.mp vals.interval_pos) (le_max_left _ _)
      exact ⟨_, Num.logFloat_of_pos lib hr (zero_lt_one.trans_le one)⟩
  have den : ∃ r, Num.logFloat lib s.retryBackoffMultiplier = .ok r ∧ (r == 0) = false := by
    refine ⟨_, Num.logFloat_of_pos lib vals.multiplier_eq (zero_lt_one.trans above), ?_⟩
    split_ifs with top
    · exact Bool.eq_false_iff.mpr fun same =>
        (zero_lt_one.trans above).ne' ((beq_iff vals.multiplier_eq valueOf?_zero).mp same)
    · exact lawful.log_ne_zero _ ((lt_iff valueOf?_one vals.multiplier_eq).mpr above)
  obtain ⟨r, hr⟩ := num
  obtain ⟨r', hr', nonzero⟩ := den
  exact ⟨r / r', by
    simp [Settings.retryReach, Num.logBase, Num.log, hr, hr', nonzero, bind, Except.bind]⟩

/-- When the power of the multiplier is a double, above one, the grown wait is the interval
times it unless the cap is smaller, and by value the exact product rounded unless the cap is
smaller. -/
theorem grownWait_of_pow (vals : s.RetryValues ai am aM) (lawful : lib.Lawful) (above : 1 < am)
    {n : ℕ} {g : Float} (taken : Num.pow lib (.float s.retryBackoffMultiplier) n = .ok (.float g)) :
    ∃ ag, Num.powFloat lib s.retryBackoffMultiplier n = .ok g ∧ valueOf? g = some ag ∧ 1 ≤ ag ∧
      s.grownWait lib n = .ok (.float (min (s.publishRetryIntervalSec * g) s.retryCap)) ∧
      valueOf? (min (s.publishRetryIntervalSec * g) s.retryCap) =
        some (min (roundToDouble (ai * ag)) (max ai aM)) := by
  obtain ⟨g', hg, same⟩ := Num.pow_float_eq_ok lib taken
  cases same
  obtain ⟨ag, vg, one⟩ := lawful.powFloat_value vals.multiplier_eq above hg
  have product := valueOf?_mul vals.interval_eq vg vals.interval_pos (zero_lt_one.trans_le one)
  refine ⟨ag, hg, vg, one, ?_, valueOf?_min product vals.valueOf?_retryCap⟩
  simp only [grownWait, taken, bind, Except.bind, Num.mul, Num.toFloat, Num.toValue_float,
    minimum_eq_min product vals.valueOf?_retryCap]

end RetryValues

/-- When the power of the multiplier fails, so does the grown wait, with its fault. -/
theorem grownWait_of_pow_error {s : Settings} {lib : MathLib} {n : ℕ} {f : Fault}
    (failed : Num.pow lib (.float s.retryBackoffMultiplier) n = .error f) :
    s.grownWait lib n = .error f := by
  simp [grownWait, failed, bind, Except.bind]

end Settings

/-! ### Waits -/

namespace RetryPolicy

variable {s : Settings} {lib : MathLib} {ai am aM : WithTop ℚ} {reach : Float}

/-- With a multiplier of one the wait is the interval. -/
theorem delayWith_flat (vals : s.RetryValues ai am aM) (flat : am ≤ 1) (attempt : Value) :
    (ofSettings s).delayWith lib attempt = .ok (.float s.publishRetryIntervalSec) := by
  simp [delayWith, ofSettings, vals.compare_multiplier, flat, bind, Except.bind, pure,
    Except.pure]

/-- Above a multiplier of one, the wait after `a` failures is the cap once `a - 1` reaches
the reach, and the grown wait before that. -/
theorem delayWith_steep (vals : s.RetryValues ai am aM) (above : 1 < am)
    (reached : s.retryReach lib = .ok reach) {a : ℤ} (one : 1 ≤ a) :
    (ofSettings s).delayWith lib (.int a) =
      if (Num.compareIntFloat (a - 1) reach).any Comparison.ge.holds then .ok (.float s.retryCap)
      else s.grownWait lib (a - 1).toNat := by
  have steep : decide (am ≤ 1) = false := decide_eq_false (not_le.mpr above)
  have exponent : Value.maximum (.int (a - 1)) (.int 0) = .ok (.int (a - 1)) := by
    simp only [Value.maximum, Value.compare, Num.ofValue?_int, Num.order, Comparison.holds,
      bind, Except.bind]
    have : compare 0 (a - 1) ≠ .gt := fun h => absurd (compare_gt_iff_gt.mp h) (by omega)
    simp [this, pure, Except.pure]
  have natural : 0 ≤ a - 1 := by omega
  unfold Settings.retryReach at reached
  simp only [delayWith, ofSettings, Settings.grownWait, vals.compare_multiplier, steep,
    vals.maximum_eq, bind, Except.bind, Num.subValues, Num.onValues, Num.ofValue?_float,
    Num.ofValue?_int, Num.ofValue?_toValue, Num.sub, Num.toValue_int, exponent, Num.div,
    Num.toFloat, vals.interval_ne_zero, Bool.false_eq_true, if_false, if_true, reached,
    compare_int_float, Num.power, natural, pure, Except.pure]

/-- Above a multiplier of one a wait is, by value, the cap once the guard passes, and before
that the interval times a power of at least one, unless the cap is smaller. -/
theorem steep_wait (vals : s.RetryValues ai am aM) (lawful : lib.Lawful) (above : 1 < am)
    (reached : s.retryReach lib = .ok reach) {a : ℤ} (one : 1 ≤ a) {v : Value}
    (answer : (ofSettings s).delayWith lib (.int a) = .ok v) :
    ∃ d vd, v = .float d ∧ valueOf? d = some vd ∧
      ((Num.compareIntFloat (a - 1) reach).any Comparison.ge.holds = true ∧ vd = max ai aM ∨
        (Num.compareIntFloat (a - 1) reach).any Comparison.ge.holds = false ∧
        ∃ g ag, Num.powFloat lib s.retryBackoffMultiplier (a - 1).toNat = .ok g ∧
          valueOf? g = some ag ∧ 1 ≤ ag ∧ vd = min (roundToDouble (ai * ag)) (max ai aM)) := by
  rw [delayWith_steep vals above reached one] at answer
  split_ifs at answer with guard
  · cases answer
    exact ⟨_, _, rfl, vals.valueOf?_retryCap, .inl ⟨guard, rfl⟩⟩
  · rcases Num.pow_float_cases lib s.retryBackoffMultiplier (a - 1).toNat with
      ⟨g, taken⟩ | ⟨f, failed⟩
    · obtain ⟨ag, hg, vg, grows, grown, hd⟩ := vals.grownWait_of_pow lawful above taken
      rw [grown] at answer
      cases answer
      exact ⟨_, _, rfl, hd, .inr ⟨Bool.eq_false_iff.mpr guard, g, ag, hg, vg, grows, rfl⟩⟩
    · rw [Settings.grownWait_of_pow_error failed] at answer
      cases answer

/-- Every wait a loaded policy answers lies, by value, between the interval and the cap. -/
theorem wait_range (vals : s.RetryValues ai am aM) (lawful : lib.Lawful) {a : ℤ} (one : 1 ≤ a)
    {v : Value} (answer : (ofSettings s).delayWith lib (.int a) = .ok v) :
    ∃ d vd, v = .float d ∧ valueOf? d = some vd ∧ ai ≤ vd ∧ vd ≤ max ai aM := by
  by_cases flat : am ≤ 1
  · rw [delayWith_flat vals flat] at answer
    cases answer
    exact ⟨_, ai, rfl, vals.interval_eq, le_rfl, le_max_left _ _⟩
  obtain ⟨reach, reached⟩ := vals.retryReach_ok lawful (not_le.mp flat)
  obtain ⟨d, vd, rfl, hd, ⟨-, rfl⟩ | ⟨-, g, ag, -, vg, grows, rfl⟩⟩ :=
    steep_wait vals lawful (not_le.mp flat) reached one answer
  · exact ⟨d, _, rfl, hd, le_max_left _ _, le_rfl⟩
  -- the interval times a power of at least one is at least the interval
  have product := valueOf?_mul vals.interval_eq vg vals.interval_pos (zero_lt_one.trans_le grows)
  have grown : ai ≤ roundToDouble (ai * ag) :=
    (le_iff vals.interval_eq product).mp
      (le_mul_of_one_le vals.interval_eq vg vals.interval_pos grows)
  exact ⟨d, _, rfl, hd, le_min grown (le_max_left _ _), min_le_right _ _⟩

/-- A later attempt never waits less, by value. -/
theorem wait_mono (vals : s.RetryValues ai am aM) (lawful : lib.Lawful) {a b : ℤ} (one : 1 ≤ a)
    (le : a ≤ b) {d d' : Float} {vd vd' : WithTop ℚ}
    (answer : (ofSettings s).delayWith lib (.int a) = .ok (.float d))
    (answer' : (ofSettings s).delayWith lib (.int b) = .ok (.float d'))
    (hd : valueOf? d = some vd) (hd' : valueOf? d' = some vd') : vd ≤ vd' := by
  by_cases flat : am ≤ 1
  · rw [delayWith_flat vals flat] at answer answer'
    cases answer
    cases answer'
    exact (Option.some.inj (hd.symm.trans hd')).le
  have above := not_le.mp flat
  obtain ⟨reach, reached⟩ := vals.retryReach_ok lawful above
  obtain ⟨e, ve, same, he, early⟩ := steep_wait vals lawful above reached one answer
  obtain ⟨e', ve', same', he', late⟩ :=
    steep_wait vals lawful above reached (one.trans le) answer'
  cases same
  cases same'
  obtain rfl := Option.some.inj (hd.symm.trans he)
  obtain rfl := Option.some.inj (hd'.symm.trans he')
  rcases early with ⟨guard, rfl⟩ | ⟨short, g, ag, hg, vg, grows, rfl⟩ <;>
    rcases late with ⟨guard', rfl⟩ | ⟨short', g', ag', hg', vg', grows', rfl⟩
  · exact le_rfl
  · -- the guard that passed at `a` passes at every later attempt
    have passes := compareIntFloat_ge_mono (show a - 1 ≤ b - 1 by omega) guard
    rw [short'] at passes
    cases passes
  · exact min_le_right _ _
  · -- a larger power gives a larger product
    have powers : g ≤ g' := lawful.powFloat_mono vals.multiplier_eq above
      (Int.toNat_le_toNat (by omega)) hg hg'
    have ipos := vals.interval_pos
    have products := mul_le_mul_left_of_le vals.interval_eq vg vg' ipos
      (zero_lt_one.trans_le grows) powers
    rw [le_iff (valueOf?_mul vals.interval_eq vg ipos (zero_lt_one.trans_le grows))
      (valueOf?_mul vals.interval_eq vg' ipos (zero_lt_one.trans_le grows'))] at products
    exact min_le_min_right _ products

/-- Every wait a loaded policy answers is a double between the interval and the cap. -/
theorem wait_between (vals : s.RetryValues ai am aM) (lawful : lib.Lawful) {a : ℤ}
    (one : 1 ≤ a) {v : Value} (answer : (ofSettings s).delayWith lib (.int a) = .ok v) :
    ∃ d, v = .float d ∧ s.publishRetryIntervalSec ≤ d ∧ d ≤ s.retryCap := by
  obtain ⟨d, vd, rfl, hd, low, high⟩ := wait_range vals lawful one answer
  exact ⟨d, rfl, (le_iff vals.interval_eq hd).mpr low,
    (le_iff hd vals.valueOf?_retryCap).mpr high⟩

/-- A later attempt never waits less, and once a wait is the cap every later one is. -/
theorem waits_grow (vals : s.RetryValues ai am aM) (lawful : lib.Lawful) {a b : ℤ}
    (one : 1 ≤ a) (le : a ≤ b) {d d' : Float}
    (answer : (ofSettings s).delayWith lib (.int a) = .ok (.float d))
    (answer' : (ofSettings s).delayWith lib (.int b) = .ok (.float d')) :
    d ≤ d' ∧ ((d == s.retryCap) = true → (d' == s.retryCap) = true) := by
  have hcap := vals.valueOf?_retryCap
  obtain ⟨e, vd, same, hd, -, -⟩ := wait_range vals lawful one answer
  obtain ⟨e', vd', same', hd', -, high'⟩ := wait_range vals lawful (one.trans le) answer'
  cases same
  cases same'
  have grows := wait_mono vals lawful one le answer answer' hd hd'
  refine ⟨(le_iff hd hd').mpr grows, fun capped => ?_⟩
  -- a wait at the cap leaves no room above it
  rw [beq_iff hd hcap] at capped
  rw [beq_iff hd' hcap]
  exact le_antisymm high' (capped ▸ grows)

/-- Above a multiplier of one the reach is computed; each wait is the cap once the guard
passes, and before that `min (interval * g) cap` for a power `g`, or the power's fault. -/
theorem steep_answers (vals : s.RetryValues ai am aM) (lawful : lib.Lawful) (above : 1 < am) :
    ∃ reach, s.retryReach lib = .ok reach ∧ ∀ a : ℤ, 1 ≤ a →
      ((Num.compareIntFloat (a - 1) reach).any Comparison.ge.holds = true →
        (ofSettings s).delayWith lib (.int a) = .ok (.float s.retryCap)) ∧
      ((Num.compareIntFloat (a - 1) reach).any Comparison.ge.holds = false →
        (∀ g, Num.pow lib (.float s.retryBackoffMultiplier) (a - 1).toNat = .ok (.float g) →
          (ofSettings s).delayWith lib (.int a) =
            .ok (.float (min (s.publishRetryIntervalSec * g) s.retryCap))) ∧
        (∀ f, Num.pow lib (.float s.retryBackoffMultiplier) (a - 1).toNat = .error f →
          (ofSettings s).delayWith lib (.int a) = .error f)) := by
  obtain ⟨reach, reached⟩ := vals.retryReach_ok lawful above
  refine ⟨reach, reached, fun a one => ⟨fun guard => ?_, fun short => ⟨fun g taken => ?_,
    fun f failed => ?_⟩⟩⟩
  · rw [delayWith_steep vals above reached one, if_pos guard]
  -- before the guard passes the wait is the grown one
  all_goals rw [delayWith_steep vals above reached one,
    if_neg (by rw [short]; exact Bool.false_ne_true)]
  · obtain ⟨-, -, -, -, grown, -⟩ := vals.grownWait_of_pow lawful above taken
    exact grown
  · exact Settings.grownWait_of_pow_error failed

end RetryPolicy

/-! ### Capped exponential backoff -/

/-- Capped exponential backoff. For settings that loaded and a lawful maths library, every
wait the policy answers after `a ≥ 1` failures is a double between the interval and the
cap, the larger of the interval and the longest wait; a later attempt never waits less,
and once a wait is the cap every later one is. With a multiplier of one every wait is the
interval. Above it the reach `log (cap / interval) / log multiplier` is computed, and the
wait after `a` failures is the cap once `a - 1` reaches it; before that it is
`min (interval * multiplier ^ (a - 1)) cap` when the power is a double, and fails with the
power's fault when the power fails. -/
theorem delay_capped_monotone {src : Sources} {s : Settings} {lib : MathLib}
    (lawful : lib.Lawful) (loaded : Settings.load src = .ok s) :
    let policy := RetryPolicy.ofSettings s
    let interval := s.publishRetryIntervalSec
    let multiplier := s.retryBackoffMultiplier
    let cap := s.retryCap
    (∀ a : ℤ, 1 ≤ a → ∀ v, policy.delayWith lib (.int a) = .ok v →
      ∃ d, v = .float d ∧ interval ≤ d ∧ d ≤ cap) ∧
    (∀ a b : ℤ, 1 ≤ a → a ≤ b → ∀ d d', policy.delayWith lib (.int a) = .ok (.float d) →
      policy.delayWith lib (.int b) = .ok (.float d') →
        d ≤ d' ∧ ((d == cap) = true → (d' == cap) = true)) ∧
    (multiplier ≤ 1 → ∀ a : ℤ, policy.delayWith lib (.int a) = .ok (.float interval)) ∧
    (1 < multiplier → ∃ reach, s.retryReach lib = .ok reach ∧ ∀ a : ℤ, 1 ≤ a →
      ((Num.compareIntFloat (a - 1) reach).any Comparison.ge.holds = true →
        policy.delayWith lib (.int a) = .ok (.float cap)) ∧
      ((Num.compareIntFloat (a - 1) reach).any Comparison.ge.holds = false →
        (∀ g, Num.pow lib (.float multiplier) (a - 1).toNat = .ok (.float g) →
          policy.delayWith lib (.int a) = .ok (.float (min (interval * g) cap))) ∧
        (∀ f, Num.pow lib (.float multiplier) (a - 1).toNat = .error f →
          policy.delayWith lib (.int a) = .error f))) := by
  intro policy interval multiplier cap
  obtain ⟨ai, am, aM, vals⟩ := (Settings.load_retryChecked loaded).values
  exact ⟨fun a one v answer => RetryPolicy.wait_between vals lawful one answer,
    fun a b one le d d' answer answer' =>
      RetryPolicy.waits_grow vals lawful one le answer answer',
    fun flat a =>
      RetryPolicy.delayWith_flat vals ((le_iff vals.multiplier_eq valueOf?_one).mp flat) _,
    fun above =>
      RetryPolicy.steep_answers vals lawful ((lt_iff valueOf?_one vals.multiplier_eq).mp above)⟩

/-- Retry settings given as keywords: a half-second wait, doubled up to a minute. -/
def Sources.halfSecondDoubling : Sources :=
  { keywords := [("publish_retry_interval_sec", .float 0.5),
      ("retry_backoff_multiplier", .float 2.0), ("retry_max_interval_sec", .float 60.0)] }

/-- The law for a policy that doubles a half-second wait up to a minute, with the library
that rounds the real logarithm and power once. -/
theorem doubling_backoff_capped :
    MathLib.nearest.Lawful ∧
    ∃ s, Settings.load .halfSecondDoubling = .ok s ∧
    let policy := RetryPolicy.ofSettings s
    let interval := s.publishRetryIntervalSec
    let multiplier := s.retryBackoffMultiplier
    let cap := s.retryCap
    (∀ a : ℤ, 1 ≤ a → ∀ v, policy.delayWith .nearest (.int a) = .ok v →
      ∃ d, v = .float d ∧ interval ≤ d ∧ d ≤ cap) ∧
    (∀ a b : ℤ, 1 ≤ a → a ≤ b → ∀ d d', policy.delayWith .nearest (.int a) = .ok (.float d) →
      policy.delayWith .nearest (.int b) = .ok (.float d') →
        d ≤ d' ∧ ((d == cap) = true → (d' == cap) = true)) ∧
    (multiplier ≤ 1 → ∀ a : ℤ, policy.delayWith .nearest (.int a) = .ok (.float interval)) ∧
    (1 < multiplier → ∃ reach, s.retryReach .nearest = .ok reach ∧ ∀ a : ℤ, 1 ≤ a →
      ((Num.compareIntFloat (a - 1) reach).any Comparison.ge.holds = true →
        policy.delayWith .nearest (.int a) = .ok (.float cap)) ∧
      ((Num.compareIntFloat (a - 1) reach).any Comparison.ge.holds = false →
        (∀ g, Num.pow .nearest (.float multiplier) (a - 1).toNat = .ok (.float g) →
          policy.delayWith .nearest (.int a) = .ok (.float (min (interval * g) cap))) ∧
        (∀ f, Num.pow .nearest (.float multiplier) (a - 1).toNat = .error f →
          policy.delayWith .nearest (.int a) = .error f))) :=
  ⟨MathLib.nearest_lawful, _, rfl,
    @delay_capped_monotone .halfSecondDoubling _ _ MathLib.nearest_lawful rfl⟩

end PublishPool
