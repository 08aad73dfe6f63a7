import Mathlib.Analysis.SpecialFunctions.Pow.Real
import PublishPool.Proofs.ExactRounding

/-!
A maths library that computes in the reals and rounds once.

`MathLib.nearest` takes the natural logarithm and the power of the reals that doubles
stand for (`toReal`) and rounds each result to a double (`ofReal`), as a correctly rounded
library does. A real is rounded through a rational in its place (`proxy`): the real
itself when it is a multiple of `2^-1076`, and otherwise the middle of the interval of that
width it lies in. No double and no point half-way between two doubles lies strictly inside
such an interval, so on a rational the rounding gives the nearest double
(`valueOf?_ofReal_ratCast`). Rounding is monotone (`ofReal_mono`) and leaves doubles as
they are, which is what the laws of a library need: the logarithm of a double above one is
positive (`MathLib.nearest.log_value`), and the powers of such a double are at least one
and grow with the exponent (`MathLib.nearest.pow_value`, `MathLib.nearest.pow_le_pow`).
-/

namespace PublishPool.Double

open Float.Model Float.Model.UnpackedFloat PublishPool.Number

/-! ### The reals that doubles stand for -/

/-- The real a value stands for; infinity stands at `2^1024`, the first power of two beyond
the doubles. -/
noncomputable def realOf (a : WithTop ℚ) : ℝ := (a.untopD (2 ^ 1024) : ℚ)

/-- The real a double stands for: its value with its sign, the infinities at `±2^1024` and
NaN at zero. -/
noncomputable def toReal (x : Float) : ℝ :=
  match x.toModel.unpack with
  | .finite .positive m e _ => ((m * 2 ^ e : ℚ) : ℝ)
  | .finite .negative m e _ => -((m * 2 ^ e : ℚ) : ℝ)
  | .infinity .positive => 2 ^ 1024
  | .infinity .negative => -2 ^ 1024
  | _ => 0

variable {x y : Float} {a b : WithTop ℚ}

/-- A double with a value stands for the real of its value. -/
theorem toReal_eq (hx : valueOf? x = some a) : toReal x = realOf a := by
  unfold valueOf? at hx
  rcases eq_of_value?_eq_some (canonical x) hx with ⟨ex, rfl⟩ | ⟨s, ex, rfl⟩ |
      ⟨m, e, pos, ex, -, -, rfl⟩
  · simp [toReal, ex, realOf]
  · cases s <;> simp [toReal, ex, realOf]
  · simp only [toReal, ex, realOf, WithTop.untopD_coe]

/-- A finite double is below `2^1024`. -/
theorem lt_of_valueOf? {q : ℚ} (hx : valueOf? x = some q) : q < 2 ^ 1024 := by
  unfold valueOf? at hx
  rcases eq_of_value?_eq_some (canonical x) hx with ⟨-, top⟩ | ⟨s, -, zero⟩ |
      ⟨m, e, pos, -, grid, fits, same⟩
  · cases top
  · rw [WithTop.coe_eq_zero.mp zero]
    positivity
  · rw [WithTop.coe_eq_coe.mp same]
    exact grid_lt grid fits

/-- The reals of the values of doubles keep their order. -/
theorem realOf_le_realOf (hx : valueOf? x = some a) (le : a ≤ b) : realOf a ≤ realOf b := by
  induction b using WithTop.recTopCoe with
  | top =>
    induction a using WithTop.recTopCoe with
    | top => exact le_rfl
    | coe q =>
      simp only [realOf, WithTop.untopD_coe, WithTop.untopD_top]
      exact_mod_cast (lt_of_valueOf? hx).le
  | coe w =>
    lift a to ℚ using ne_top_of_le_ne_top WithTop.coe_ne_top le
    simp only [realOf, WithTop.untopD_coe]
    exact_mod_cast WithTop.coe_le_coe.mp le

/-- A value that is not negative stands for a real that is not negative. -/
theorem realOf_nonneg (nonneg : 0 ≤ a) : 0 ≤ realOf a := by
  induction a using WithTop.recTopCoe with
  | top => simp only [realOf, WithTop.untopD_top]; positivity
  | coe q => simpa [realOf] using nonneg

/-- A power of two as a mantissa. -/
theorem pow_grid_value (n : ℕ) (e : ℤ) : ((2 ^ n : ℕ) : ℚ) * 2 ^ e = 2 ^ (n + e) := by
  rw [Nat.cast_pow, Nat.cast_ofNat, ← zpow_natCast, ← zpow_add₀ two_ne_zero]

/-- A double above one is at least the next double after one, `1 + 2^-52`. -/
theorem one_add_le_of_grid {m : ℕ} {e : ℤ} (grid : OnGrid m e) (above : 1 < (m * 2 ^ e : ℚ)) :
    1 + 2 ^ (-52 : ℤ) ≤ (m * 2 ^ e : ℚ) := by
  -- below `2^-52` a mantissa of 53 digits stays below one
  have fine : -52 ≤ e := by
    by_contra coarse
    have : (m * 2 ^ e : ℚ) < 1 :=
      calc (m * 2 ^ e : ℚ) < 2 ^ (53 : ℤ) * 2 ^ e := by
            gcongr
            exact_mod_cast grid.1
        _ = 2 ^ (53 + e) := (zpow_add₀ two_ne_zero _ _).symm
        _ ≤ 2 ^ (0 : ℤ) := zpow_le_zpow_right₀ one_le_two (by omega)
        _ = 1 := zpow_zero 2
    linarith
  obtain ⟨j, hj⟩ : ∃ j : ℕ, e = j - 52 := ⟨(e + 52).toNat, by omega⟩
  have value : (m * 2 ^ e : ℚ) = ((m * 2 ^ j : ℕ) : ℚ) * 2 ^ (-52 : ℤ) := by
    rw [hj, sub_eq_add_neg, zpow_add₀ two_ne_zero, zpow_natCast]
    push_cast
    ring
  have unit : ((2 ^ 52 : ℕ) : ℚ) * 2 ^ (-52 : ℤ) = 1 := by
    rw [pow_grid_value]
    norm_num
  rw [value] at above ⊢
  -- the value counts units of `2^-52`, more than `2^52` of them
  have count : 2 ^ 52 < m * 2 ^ j := by
    have : ((2 ^ 52 : ℕ) : ℚ) * 2 ^ (-52 : ℤ) < ((m * 2 ^ j : ℕ) : ℚ) * 2 ^ (-52 : ℤ) := by
      rwa [unit]
    exact_mod_cast lt_of_mul_lt_mul_right this (by positivity)
  calc 1 + 2 ^ (-52 : ℤ) = ((2 ^ 52 + 1 : ℕ) : ℚ) * 2 ^ (-52 : ℤ) := by
        rw [Nat.cast_add, Nat.cast_one, add_mul, unit, one_mul]
    _ ≤ ((m * 2 ^ j : ℕ) : ℚ) * 2 ^ (-52 : ℤ) := by
        gcongr
        exact_mod_cast count

/-- A double above one stands for a real of at least `1 + 2^-52`. -/
theorem one_add_le_toReal (hx : valueOf? x = some a) (above : 1 < a) :
    1 + 2 ^ (-52 : ℤ) ≤ toReal x := by
  have small : (1 : ℝ) + 2 ^ (-52 : ℤ) ≤ 2 := by
    have : (2 : ℝ) ^ (-52 : ℤ) ≤ 1 := zpow_le_one_of_nonpos₀ one_le_two (by norm_num)
    linarith
  rw [toReal_eq hx]
  unfold valueOf? at hx
  rcases eq_of_value?_eq_some (canonical x) hx with ⟨-, rfl⟩ | ⟨s, -, rfl⟩ |
      ⟨m, e, pos, -, grid, -, rfl⟩
  · simp only [realOf, WithTop.untopD_top]
    push_cast
    exact small.trans (le_self_pow₀ one_le_two (by norm_num))
  · exact absurd above (not_lt.mpr zero_le_one)
  · have bound := (Rat.cast_le (K := ℝ)).mpr (one_add_le_of_grid grid (WithTop.coe_lt_coe.mp above))
    rw [Rat.cast_add, Rat.cast_one, Rat.cast_zpow, Rat.cast_ofNat] at bound
    simpa only [realOf, WithTop.untopD_coe] using bound

/-- A double above one stands for a real of at least one. -/
theorem one_le_toReal (hx : valueOf? x = some a) (above : 1 < a) : 1 ≤ toReal x :=
  le_trans (by simp) (one_add_le_toReal hx above)

/-! ### Rounding a real -/

/-- Where a nonnegative real is rounded, in halves of `2^-1076`: twice the multiples of
`2^-1076` up to it, and one more when it lies strictly beyond the last of them. -/
noncomputable def cellIndex (v : ℝ) : ℤ :=
  2 * ⌊v * 2 ^ 1076⌋ + if v * 2 ^ 1076 = ⌊v * 2 ^ 1076⌋ then 0 else 1

/-- The rational a nonnegative real is rounded as: the real itself when it is a multiple of
`2^-1076`, and otherwise the middle of the interval of that width it lies in. -/
noncomputable def proxy (v : ℝ) : ℚ := cellIndex v / 2 ^ 1077

/-- The double nearest to a nonnegative rational. -/
def ofRat (q : ℚ) : Float := roundRatio false q.num.toNat q.den

/-- The double nearest to a real; a negative real is rounded by its magnitude. -/
noncomputable def ofReal (v : ℝ) : Float :=
  if v < 0 then -ofRat (proxy (-v)) else ofRat (proxy v)

variable {v w : ℝ}

/-- A nonnegative real has a nonnegative cell index. -/
theorem cellIndex_nonneg (nonneg : 0 ≤ v) : 0 ≤ cellIndex v := by
  have : 0 ≤ ⌊v * 2 ^ 1076⌋ := Int.floor_nonneg.mpr (by positivity)
  unfold cellIndex
  split_ifs <;> omega

/-- The cell index grows with the real. -/
theorem cellIndex_mono (le : v ≤ w) : cellIndex v ≤ cellIndex w := by
  have scaled : v * 2 ^ 1076 ≤ w * 2 ^ 1076 := by gcongr
  have floors : ⌊v * 2 ^ 1076⌋ ≤ ⌊w * 2 ^ 1076⌋ := Int.floor_le_floor scaled
  unfold cellIndex
  split_ifs with onV onW onW
  · omega
  · omega
  · -- beyond its last multiple, `v` shares it with `w` only if `w` is beyond it too
    rcases floors.lt_or_eq with lt | same
    · omega
    · have above : (⌊v * 2 ^ 1076⌋ : ℝ) < v * 2 ^ 1076 :=
        (Int.floor_le _).lt_of_ne (Ne.symm onV)
      rw [same, ← onW] at above
      exact absurd scaled (not_le.mpr above)
  · omega

/-- A multiple of `2^-1076` is its own index. -/
theorem cellIndex_grid (k : ℤ) : cellIndex (k / 2 ^ 1076) = 2 * k := by
  have scaled : (k : ℝ) / 2 ^ 1076 * 2 ^ 1076 = k := div_mul_cancel₀ _ (by positivity)
  simp [cellIndex, scaled]

/-- A nonnegative real is rounded as a nonnegative rational. -/
theorem proxy_nonneg (nonneg : 0 ≤ v) : 0 ≤ proxy v := by
  unfold proxy
  have := cellIndex_nonneg nonneg
  positivity

/-- A larger real is rounded as a rational no smaller. -/
theorem proxy_mono (le : v ≤ w) : proxy v ≤ proxy w := by
  unfold proxy
  gcongr
  exact_mod_cast cellIndex_mono le

/-- A double is rounded as itself. -/
theorem proxy_grid {m : ℕ} {e : ℤ} (grid : OnGrid m e) :
    proxy ((m * 2 ^ e : ℚ) : ℝ) = m * 2 ^ e := by
  obtain ⟨j, hj⟩ : ∃ j : ℕ, e + 1076 = j := ⟨(e + 1076).toNat, by have := grid.2.1; omega⟩
  have multiple : ((m * 2 ^ e : ℚ) : ℝ) = ((m * 2 ^ j : ℕ) : ℤ) / 2 ^ 1076 := by
    rw [eq_div_iff (by positivity)]
    push_cast
    rw [mul_assoc, ← zpow_natCast, ← zpow_natCast, ← zpow_add₀ two_ne_zero, ← hj]
    ring_nf
  rw [proxy, multiple, cellIndex_grid, div_eq_iff (by positivity)]
  push_cast
  rw [← zpow_natCast 2 1077, mul_assoc, ← zpow_add₀ two_ne_zero,
    show e + (1077 : ℕ) = ((j + 1 : ℕ) : ℤ) by push_cast; omega, zpow_natCast, pow_succ]
  ring

/-- Rounding a nonnegative rational gives the nearest double. -/
theorem valueOf?_ofRat {q : ℚ} (nonneg : 0 ≤ q) : valueOf? (ofRat q) = some (roundToDouble q) := by
  rcases nonneg.lt_or_eq with pos | rfl
  · have num : 0 < q.num := Rat.num_pos.mpr pos
    have cast : ((q.num.toNat : ℕ) : ℚ) = q.num := by exact_mod_cast Int.toNat_of_nonneg num.le
    unfold ofRat
    rw [valueOf?_roundRatio (by omega) q.den_pos, cast, Rat.num_div_den]
  · rw [ofRat, Rat.num_zero, Int.toNat_zero, valueOf?_roundRatio_zero, WithTop.coe_zero,
      roundToDouble_zero]

/-- A nonnegative real rounds as its proxy does. -/
theorem valueOf?_ofReal (nonneg : 0 ≤ v) :
    valueOf? (ofReal v) = some (roundToDouble (proxy v)) := by
  rw [ofReal, if_neg (not_lt.mpr nonneg), valueOf?_ofRat (proxy_nonneg nonneg)]

/-- Rounding is monotone. -/
theorem ofReal_mono (nonneg : 0 ≤ v) (le : v ≤ w) : ofReal v ≤ ofReal w := by
  rw [le_iff (valueOf?_ofReal nonneg) (valueOf?_ofReal (nonneg.trans le))]
  exact roundToDouble_mono (WithTop.coe_nonneg.mpr (proxy_nonneg nonneg))
    (WithTop.coe_le_coe.mpr (proxy_mono le))

/-- A double below a real is not above its rounding. -/
theorem le_valueOf?_ofReal {m : ℕ} {e : ℤ} (pos : 0 < m) (grid : OnGrid m e) (fits : e ≤ 971)
    (le : ((m * 2 ^ e : ℚ) : ℝ) ≤ v) :
    ∃ b, valueOf? (ofReal v) = some b ∧ ((m * 2 ^ e : ℚ) : WithTop ℚ) ≤ b := by
  have nonneg : (0 : ℝ) ≤ v := le_trans (by positivity) le
  refine ⟨_, valueOf?_ofReal nonneg, ?_⟩
  calc ((m * 2 ^ e : ℚ) : WithTop ℚ) = roundToDouble (proxy ((m * 2 ^ e : ℚ) : ℝ)) := by
        rw [proxy_grid grid, roundToDouble_grid pos grid fits]
    _ ≤ roundToDouble (proxy v) :=
        roundToDouble_mono (WithTop.coe_nonneg.mpr (proxy_nonneg (by positivity)))
          (WithTop.coe_le_coe.mpr (proxy_mono le))

/-! ### A rational rounds to the nearest double -/

/-- Rationals whose doubles lie strictly between the same two integers round alike: the
floor and the comparisons with the half are read off the floor of the double. -/
theorem roundEven_eq_of_floor {z z' : ℚ} (floor : ⌊2 * z⌋ = ⌊2 * z'⌋)
    (off : 2 * z ≠ ⌊2 * z⌋) (off' : 2 * z' ≠ ⌊2 * z'⌋) : roundEven z = roundEven z' := by
  have half : ∀ w : ℚ, ⌊w⌋ = ⌊2 * w⌋ / 2 := fun w => by
    have := Int.floor_div_natCast (2 * w) 2
    rwa [Nat.cast_ofNat, Nat.cast_ofNat, mul_div_cancel_left₀ w two_ne_zero] at this
  have below : ∀ w : ℚ, w - ⌊w⌋ < 1 / 2 ↔ ⌊2 * w⌋ < 2 * ⌊w⌋ + 1 := fun w => by
    rw [Int.floor_lt]
    push_cast
    constructor <;> intro h <;> linarith
  have above : ∀ w : ℚ, 2 * w ≠ ⌊2 * w⌋ → (1 / 2 < w - ⌊w⌋ ↔ 2 * ⌊w⌋ + 1 ≤ ⌊2 * w⌋) :=
    fun w off => by
      rw [Int.le_floor]
      push_cast
      constructor
      · intro h
        linarith
      · intro h
        -- equality would put the double on an integer
        have strict : (2 * ⌊w⌋ + 1 : ℚ) ≠ 2 * w := fun same => off (by
          rw [← same]
          exact_mod_cast (Int.floor_intCast (2 * ⌊w⌋ + 1)).symm)
        linarith [lt_of_le_of_ne h strict]
  have same : ⌊z⌋ = ⌊z'⌋ := by rw [half z, half z', floor]
  unfold roundEven
  simp only [below, above z off, above z' off']
  rw [same, floor]

/-- Halving `d` times halves the floor `d` times. -/
theorem floor_div_pow (x : ℚ) (d : ℕ) : ⌊x / 2 ^ d⌋ = ⌊x⌋ / 2 ^ d := by
  have := Int.floor_div_natCast x (2 ^ d)
  push_cast at this
  exact this

/-- Halving keeps a rational off the integers. -/
theorem off_div_pow {x : ℚ} (off : x ≠ ⌊x⌋) (d : ℕ) : x / 2 ^ d ≠ ⌊x / 2 ^ d⌋ := by
  intro on
  apply off
  have whole : x = ((⌊x / 2 ^ d⌋ * 2 ^ d : ℤ) : ℚ) := by
    push_cast
    rw [← on, div_mul_cancel₀ _ (by positivity)]
  rw [whole, Int.floor_intCast]

/-- A power of two from `2^-1076` on is below a rational exactly when its multiple of
`2^-1076` is below the rational's. -/
theorem zpow_le_iff_floor {q : ℚ} {k : ℤ} (fine : -1076 ≤ k) :
    (2 : ℚ) ^ k ≤ q ↔ (2 ^ (k + 1076).toNat : ℤ) ≤ ⌊q * 2 ^ 1076⌋ := by
  have scaled : (2 : ℚ) ^ k = ((2 ^ (k + 1076).toNat : ℤ) : ℚ) / 2 ^ 1076 := by
    rw [eq_div_iff (by positivity), Int.cast_pow, Int.cast_ofNat,
      ← zpow_natCast (2 : ℚ) (k + 1076).toNat, ← zpow_natCast (2 : ℚ) 1076,
      ← zpow_add₀ two_ne_zero]
    congr 1
    omega
  rw [scaled, div_le_iff₀ (by positivity), Int.le_floor]

variable {q p : ℚ}

/-- Two positive rationals between the same two multiples of `2^-1076`, and on none, have
one nearest double: their binary exponents agree, and so do their roundings at the last
place, which is no finer than `2^-1074`. -/
theorem nearest_eq_of_cell (qpos : 0 < q) (ppos : 0 < p)
    (floor : ⌊q * 2 ^ 1076⌋ = ⌊p * 2 ^ 1076⌋) (off : q * 2 ^ 1076 ≠ ⌊q * 2 ^ 1076⌋)
    (off' : p * 2 ^ 1076 ≠ ⌊p * 2 ^ 1076⌋) : nearest q = nearest p := by
  have powers : ∀ k : ℤ, -1076 ≤ k → ((2 : ℚ) ^ k ≤ q ↔ (2 : ℚ) ^ k ≤ p) := fun k fine => by
    rw [zpow_le_iff_floor fine, zpow_le_iff_floor fine, floor]
  have place : lastPlace q = lastPlace p := by
    by_cases small : q < 2 ^ (-1076 : ℤ)
    · -- both lie below `2^-1076`, where the last place is the least one
      have small' : p < 2 ^ (-1076 : ℤ) :=
        not_le.mp fun le => not_le.mpr small ((powers _ le_rfl).mpr le)
      have log : Int.log 2 q < -1076 :=
        (Int.lt_zpow_iff_log_lt (b := 2) one_lt_two qpos).mp (by exact_mod_cast small)
      have log' : Int.log 2 p < -1076 :=
        (Int.lt_zpow_iff_log_lt (b := 2) one_lt_two ppos).mp (by exact_mod_cast small')
      unfold lastPlace
      omega
    · have fine : -1076 ≤ Int.log 2 q :=
        (Int.zpow_le_iff_le_log (b := 2) one_lt_two qpos).mp (by exact_mod_cast not_lt.mp small)
      have lo : (2 : ℚ) ^ Int.log 2 q ≤ q := by
        exact_mod_cast Int.zpow_log_le_self (b := 2) (by norm_num) qpos
      have hi : q < 2 ^ (Int.log 2 q + 1) := by
        exact_mod_cast Int.lt_zpow_succ_log_self (b := 2) (by norm_num) q
      have hi' : p < 2 ^ (Int.log 2 q + 1) :=
        not_le.mp fun le => not_le.mpr hi ((powers _ (by omega)).mpr le)
      unfold lastPlace
      rw [log_eq_of_bounds ((powers _ fine).mp lo) hi']
  -- twice the scaled values are the values in units of `2^-1076`, halved `d` times
  obtain ⟨d, hd⟩ : ∃ d : ℕ, lastPlace q + 1075 = d :=
    ⟨(lastPlace q + 1075).toNat, by unfold lastPlace; omega⟩
  have doubled : ∀ r : ℚ, 2 * (r / 2 ^ lastPlace q) = r * 2 ^ 1076 / 2 ^ d := fun r => by
    rw [div_eq_mul_inv, div_eq_mul_inv, ← zpow_natCast (2 : ℚ) d, ← hd,
      ← zpow_natCast (2 : ℚ) 1076, ← zpow_neg, ← zpow_neg, mul_assoc, ← zpow_add₀ two_ne_zero,
      show ((1076 : ℕ) : ℤ) + -(lastPlace q + 1075) = 1 + -lastPlace q by push_cast; ring,
      zpow_add₀ two_ne_zero, zpow_one]
    ring
  have floors : ⌊2 * (q / 2 ^ lastPlace q)⌋ = ⌊2 * (p / 2 ^ lastPlace q)⌋ := by
    rw [doubled, doubled, floor_div_pow, floor_div_pow, floor]
  have offQ : 2 * (q / 2 ^ lastPlace q) ≠ ⌊2 * (q / 2 ^ lastPlace q)⌋ := by
    rw [doubled]
    exact off_div_pow off d
  have offP : 2 * (p / 2 ^ lastPlace q) ≠ ⌊2 * (p / 2 ^ lastPlace q)⌋ := by
    rw [doubled]
    exact off_div_pow off' d
  unfold nearest
  rw [← place, roundEven_eq_of_floor floors offQ offP]

/-- A rational's cell index, read in the rationals. -/
theorem cellIndex_ratCast :
    cellIndex q = 2 * ⌊q * 2 ^ 1076⌋ + if q * 2 ^ 1076 = ⌊q * 2 ^ 1076⌋ then 0 else 1 := by
  have cast : (q : ℝ) * 2 ^ 1076 = ((q * 2 ^ 1076 : ℚ) : ℝ) := by
    rw [Rat.cast_mul, Rat.cast_pow, Rat.cast_ofNat]
  have exact : ((q * 2 ^ 1076 : ℚ) : ℝ) = ((⌊q * 2 ^ 1076⌋ : ℤ) : ℝ) ↔
      q * 2 ^ 1076 = ⌊q * 2 ^ 1076⌋ := by
    rw [show ((⌊q * 2 ^ 1076⌋ : ℤ) : ℝ) = ((⌊q * 2 ^ 1076⌋ : ℚ) : ℝ) from
      (Rat.cast_intCast _).symm, Rat.cast_inj]
  unfold cellIndex
  simp only [cast, Rat.floor_cast, exact]

/-- A nonnegative rational is rounded as itself: its proxy is the rational when it is a
multiple of `2^-1076`, and otherwise lies with it between the same two multiples. -/
theorem roundToDouble_proxy (nonneg : 0 ≤ q) :
    roundToDouble (proxy q) = roundToDouble q := by
  unfold proxy
  rw [cellIndex_ratCast]
  by_cases on : q * 2 ^ 1076 = ⌊q * 2 ^ 1076⌋
  · rw [if_pos on, add_zero]
    congr 2
    rw [div_eq_iff (by positivity), Int.cast_mul, Int.cast_ofNat, ← on,
      show (2 : ℚ) ^ 1077 = 2 ^ 1076 * 2 from pow_succ 2 1076, mul_comm 2 (q * _), mul_assoc]
  · rw [if_neg on]
    set n := ⌊q * 2 ^ 1076⌋ with hn
    have qpos : 0 < q := nonneg.lt_of_ne fun zero => on (by rw [hn, ← zero]; simp)
    have middle : ((2 * n + 1 : ℤ) : ℚ) / 2 ^ 1077 * 2 ^ 1076 = n + 1 / 2 := by
      rw [show (2 : ℚ) ^ 1077 = 2 ^ 1076 * 2 from pow_succ 2 1076]
      field_simp
      push_cast
      ring
    have floor : ⌊((2 * n + 1 : ℤ) : ℚ) / 2 ^ 1077 * 2 ^ 1076⌋ = n := by
      rw [middle, Int.floor_eq_iff]
      constructor <;> linarith
    have off : ((2 * n + 1 : ℤ) : ℚ) / 2 ^ 1077 * 2 ^ 1076 ≠
        ⌊((2 * n + 1 : ℤ) : ℚ) / 2 ^ 1077 * 2 ^ 1076⌋ := by
      rw [floor, middle]
      linarith
    have ppos : (0 : ℚ) < ((2 * n + 1 : ℤ) : ℚ) / 2 ^ 1077 := by
      have : 0 ≤ n := Int.floor_nonneg.mpr (by positivity)
      have : (0 : ℚ) < ((2 * n + 1 : ℤ) : ℚ) := by exact_mod_cast (by omega : 0 < 2 * n + 1)
      positivity
    rw [roundToDouble_coe, roundToDouble_coe, nearest_eq_of_cell ppos qpos (floor.trans hn) off on]

/-- On a nonnegative rational the rounding of reals gives the nearest double. -/
theorem valueOf?_ofReal_ratCast (nonneg : 0 ≤ q) :
    valueOf? (ofReal q) = some (roundToDouble q) := by
  rw [valueOf?_ofReal (by exact_mod_cast nonneg), roundToDouble_proxy nonneg]

/-! ### Logarithms above one -/

/-- Above `1 + 2ε` the logarithm is at least `ε`, for `ε` up to a half: `1 - 1/t ≤ log t`,
and `1/t ≤ 1 - ε`. -/
theorem le_log {ε t : ℝ} (pos : 0 < ε) (small : ε ≤ 1 / 2) (ht : 1 + 2 * ε ≤ t) :
    ε ≤ Real.log t := by
  have tpos : 0 < t := by linarith
  have step : (1 - ε) * (1 + 2 * ε) ≤ (1 - ε) * t :=
    mul_le_mul_of_nonneg_left ht (by linarith)
  have inverse : t⁻¹ ≤ 1 - ε := by
    rw [inv_le_iff_one_le_mul₀ tpos]
    nlinarith
  have := Real.one_sub_inv_le_log_of_pos tpos
  linarith

/-- The logarithm of a double above one is at least `2^-53`. -/
theorem le_log_toReal (hx : valueOf? x = some a) (above : 1 < a) :
    2 ^ (-53 : ℤ) ≤ Real.log (toReal x) := by
  have double : (2 : ℝ) ^ (-52 : ℤ) = 2 * 2 ^ (-53 : ℤ) := by
    rw [show (-52 : ℤ) = 1 + -53 by norm_num, zpow_add₀ two_ne_zero, zpow_one]
  have small : (2 : ℝ) ^ (-53 : ℤ) ≤ 1 / 2 := by
    rw [show (1 : ℝ) / 2 = 2 ^ (-1 : ℤ) by norm_num]
    exact zpow_le_zpow_right₀ one_le_two (by norm_num)
  exact le_log (by positivity) small (double ▸ one_add_le_toReal hx above)

end PublishPool.Double

namespace PublishPool

open Double Float.Model Float.Model.UnpackedFloat Number

/-- The maths library that computes in the reals and rounds once: the natural logarithm and
the power of the reals that doubles stand for, each rounded to the nearest double. -/
noncomputable def MathLib.nearest : MathLib where
  log x := ofReal (Real.log (toReal x))
  pow x y := ofReal (toReal x ^ toReal y)

namespace MathLib.nearest

variable {x : Float} {a : WithTop ℚ}

/-- The logarithm of a double above one is at least `2^-53`. -/
theorem log_value (hx : valueOf? x = some a) (above : 1 < a) :
    ∃ b, valueOf? (nearest.log x) = some b ∧ 0 < b := by
  have grid : OnGrid (2 ^ 52) (-105) := ⟨by norm_num, by norm_num, .inl le_rfl⟩
  obtain ⟨b, hb, le⟩ := le_valueOf?_ofReal (by positivity) grid (by norm_num)
    ((show (((2 ^ 52 : ℕ) * 2 ^ (-105 : ℤ) : ℚ) : ℝ) = 2 ^ (-53 : ℤ) by
        rw [pow_grid_value, Rat.cast_zpow, Rat.cast_ofNat]
        norm_num).trans_le (le_log_toReal hx above))
  exact ⟨b, hb, lt_of_lt_of_le (WithTop.coe_pos.mpr (by positivity)) le⟩

/-- The exponent `k` made a double stands for a nonnegative real that grows with `k`. -/
theorem toReal_ofInt_mono {k l : ℕ} (le : k ≤ l) :
    0 ≤ toReal (ofInt k) ∧ toReal (ofInt k) ≤ toReal (ofInt l) := by
  have nonneg : (0 : WithTop ℚ) ≤ roundToDouble (k : ℚ) := by
    rw [← roundToDouble_zero]
    exact roundToDouble_mono le_rfl (WithTop.coe_nonneg.mpr (Nat.cast_nonneg k))
  rw [toReal_eq (valueOf?_ofInt k), toReal_eq (valueOf?_ofInt l)]
  exact ⟨realOf_nonneg nonneg, realOf_le_realOf (valueOf?_ofInt k)
    (roundToDouble_mono (WithTop.coe_nonneg.mpr (Nat.cast_nonneg k))
      (WithTop.coe_le_coe.mpr (by exact_mod_cast le)))⟩

/-- A double above one to a natural power is at least one. -/
theorem pow_value (hx : valueOf? x = some a) (above : 1 < a) (k : ℕ) :
    ∃ b, valueOf? (nearest.pow x (ofInt k)) = some b ∧ 1 ≤ b := by
  have grid : OnGrid (2 ^ 52) (-52) := ⟨by norm_num, by norm_num, .inl le_rfl⟩
  have base : 1 ≤ toReal x := one_le_toReal hx above
  have one : (((2 ^ 52 : ℕ) * 2 ^ (-52 : ℤ) : ℚ)) = 1 := by
    rw [pow_grid_value]
    norm_num
  obtain ⟨b, hb, le⟩ := le_valueOf?_ofReal (v := toReal x ^ toReal (ofInt k)) (by positivity)
    grid (by norm_num)
    (by rw [one]; exact_mod_cast Real.one_le_rpow base (toReal_ofInt_mono le_rfl).1)
  exact ⟨b, hb, by rwa [one] at le⟩

/-- Powers of a double above one grow with the exponent. -/
theorem pow_le_pow (hx : valueOf? x = some a) (above : 1 < a) {k l : ℕ} (le : k ≤ l) :
    nearest.pow x (ofInt k) ≤ nearest.pow x (ofInt l) := by
  have base : 1 ≤ toReal x := one_le_toReal hx above
  obtain ⟨nonneg, grows⟩ := toReal_ofInt_mono le
  exact ofReal_mono (Real.rpow_nonneg (zero_le_one.trans base) _)
    (Real.rpow_le_rpow_of_exponent_le base grows)

end MathLib.nearest

end PublishPool
