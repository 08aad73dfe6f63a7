import PublishPool.Proofs.DoubleOrder

/-!
Rounding to the nearest double.

`roundEven` rounds a rational to the nearest integer, a half going to the even one. The
doubles near `v > 0` have their last place at `2 ^ lastPlace v`: 52 binary places below
the leading one of `v`, and never below `2^-1074`. `nearest v` rounds `v` to that place,
and `roundTop` also overflows to infinity from `2^1024` on. Both are monotone
(`nearest_mono`, `roundTop_mono`) and leave the values of doubles as they are
(`nearest_grid`, `roundTop_grid`).

The model rounds by shifting a mantissa right to the target exponent while it keeps a
round bit and a sticky bit. `Represents em x` says what the bits mean: `x` lies at the
mantissa, between it and the half after it, at that half, or beyond it. Shifting keeps
the meaning (`Represents.shiftRight`), and the rounded mantissa is `roundEven x`
(`Represents.roundedMantissa`). So the model's `roundWithAccuracy` gives `roundTop` of
the exact value (`value?_roundWithAccuracy`), and the product of two positive doubles is
their exact product rounded once (`valueOf?_mul`): monotone in each factor, and exact
when nothing is lost.
-/

namespace PublishPool.Double

open Float.Model Float.Model.UnpackedFloat

/-! ### Rounding to an integer -/

/-- The integer nearest to `x`, the even one of two at a half. -/
def roundEven (x : ℚ) : ℤ :=
  let k := ⌊x⌋
  if x - k < 1 / 2 then k else if 1 / 2 < x - k then k + 1 else k + k % 2

theorem floor_le_roundEven (x : ℚ) : ⌊x⌋ ≤ roundEven x := by
  have := Int.emod_nonneg ⌊x⌋ (by norm_num : (2 : ℤ) ≠ 0)
  unfold roundEven
  dsimp only
  split_ifs <;> omega

theorem roundEven_le_floor_add_one (x : ℚ) : roundEven x ≤ ⌊x⌋ + 1 := by
  have := Int.emod_lt_of_pos ⌊x⌋ (by norm_num : (0 : ℤ) < 2)
  unfold roundEven
  dsimp only
  split_ifs <;> omega

@[simp] theorem roundEven_intCast (n : ℤ) : roundEven n = n := by
  simp [roundEven]

/-- Rounding never passes an integer bound from below. -/
theorem roundEven_le_of_le {x : ℚ} {n : ℤ} (h : x ≤ n) : roundEven x ≤ n := by
  have floor : ⌊x⌋ ≤ n := Int.floor_le_floor h |>.trans_eq (Int.floor_intCast n)
  rcases floor.lt_or_eq with lt | eq
  · have := roundEven_le_floor_add_one x
    omega
  · -- `x` lies between its floor `n` and `n`, so it is the integer `n`
    have : x = n := le_antisymm h (eq ▸ Int.floor_le x)
    rw [this, roundEven_intCast]

/-- Rounding never passes an integer bound from above. -/
theorem le_roundEven_of_le {x : ℚ} {n : ℤ} (h : n ≤ x) : n ≤ roundEven x :=
  (Int.le_floor.mpr h).trans (floor_le_roundEven x)

/-- Rounding to an integer is monotone. -/
theorem roundEven_mono {x y : ℚ} (h : x ≤ y) : roundEven x ≤ roundEven y := by
  have floors := Int.floor_le_floor h
  rcases floors.lt_or_eq with lt | eq
  · have := roundEven_le_floor_add_one x
    have := floor_le_roundEven y
    omega
  · -- the same floor: the nearer half decides, and `y`'s fraction is the larger
    have fractions : x - ⌊x⌋ ≤ y - ⌊y⌋ := by rw [eq]; linarith
    unfold roundEven
    dsimp only
    simp only [eq] at fractions ⊢
    split_ifs <;> first | omega | (exfalso; linarith)

/-! ### The nearest double -/

/-- The binary logarithm of a rational between two powers of two. -/
theorem log_eq_of_bounds {v : ℚ} {k : ℤ} (lo : 2 ^ k ≤ v) (hi : v < 2 ^ (k + 1)) :
    Int.log 2 v = k := by
  have pos : 0 < v := lt_of_lt_of_le (zpow_pos two_pos k) lo
  have least := (Int.zpow_le_iff_le_log (b := 2) (by norm_num) pos).mp (by exact_mod_cast lo)
  have below := (Int.lt_zpow_iff_log_lt (b := 2) (by norm_num) pos).mp (by exact_mod_cast hi)
  omega

/-- A value between a positive mantissa and the next one at an exponent has the binary
logarithm of the mantissa's leading bit. -/
theorem log_of_mantissa {v : ℚ} {m : ℕ} {e : ℤ} (pos : 0 < m) (lo : m * 2 ^ e ≤ v)
    (hi : v < (m + 1) * 2 ^ e) : Int.log 2 v = m.log2 + e := by
  have lead : (2 : ℚ) ^ (m.log2 : ℤ) ≤ m := by
    rw [zpow_natCast]
    exact_mod_cast Nat.log2_self_le pos.ne'
  have next : (m + 1 : ℚ) ≤ 2 ^ ((m.log2 : ℤ) + 1) := by
    rw [← Nat.cast_one, ← Nat.cast_add, ← Nat.cast_succ, zpow_natCast]
    exact_mod_cast Nat.lt_log2_self
  apply log_eq_of_bounds
  · calc (2 : ℚ) ^ ((m.log2 : ℤ) + e) = 2 ^ (m.log2 : ℤ) * 2 ^ e := zpow_add₀ two_ne_zero _ _
      _ ≤ m * 2 ^ e := by gcongr
      _ ≤ v := lo
  · calc v < (m + 1) * 2 ^ e := hi
      _ ≤ 2 ^ ((m.log2 : ℤ) + 1) * 2 ^ e := by gcongr
      _ = 2 ^ ((m.log2 : ℤ) + e + 1) := by rw [← zpow_add₀ two_ne_zero]; ring_nf

/-- The exponent of the last place of the doubles near `v`: 52 binary places below the
leading one of `v`, and never below `-1074`. -/
def lastPlace (v : ℚ) : ℤ := max (Int.log 2 v - 52) (-1074)

/-- `v ≥ 0` rounded to the nearest double, a tie to the even last digit, on the grid of
doubles without its upper end. -/
def nearest (v : ℚ) : ℚ := roundEven (v / 2 ^ lastPlace v) * 2 ^ lastPlace v

/-- A power of two at or above the last place is an integer number of last places. -/
theorem zpow_eq_intCast {j : ℤ} (nonneg : 0 ≤ j) : (2 : ℚ) ^ j = ((2 ^ j.toNat : ℤ) : ℚ) := by
  rw [← Int.toNat_of_nonneg nonneg, zpow_natCast]
  push_cast
  rfl

/-- Rounding does not pass a power of two above `v` that lies on the grid near `v`. -/
theorem nearest_le_zpow {v : ℚ} {k : ℤ} (below : v ≤ 2 ^ k) (place : lastPlace v ≤ k) :
    nearest v ≤ 2 ^ k := by
  have scale : (0 : ℚ) < 2 ^ lastPlace v := zpow_pos two_pos _
  have power : (2 : ℚ) ^ k / 2 ^ lastPlace v = 2 ^ (k - lastPlace v) :=
    (zpow_sub₀ two_ne_zero _ _).symm
  have places : v / 2 ^ lastPlace v ≤ ((2 ^ (k - lastPlace v).toNat : ℤ) : ℚ) := by
    rw [← zpow_eq_intCast (by omega), ← power]
    exact div_le_div_of_nonneg_right below scale.le
  have rounded := roundEven_le_of_le places
  calc nearest v ≤ ((2 ^ (k - lastPlace v).toNat : ℤ) : ℚ) * 2 ^ lastPlace v := by
        unfold nearest
        gcongr
    _ = 2 ^ k := by
        rw [← zpow_eq_intCast (by omega), ← zpow_add₀ two_ne_zero, sub_add_cancel]

/-- Rounding does not pass a power of two below `v` that lies on the grid near `v`. -/
theorem zpow_le_nearest {v : ℚ} {k : ℤ} (above : 2 ^ k ≤ v) (place : lastPlace v ≤ k) :
    2 ^ k ≤ nearest v := by
  have scale : (0 : ℚ) < 2 ^ lastPlace v := zpow_pos two_pos _
  have power : (2 : ℚ) ^ k / 2 ^ lastPlace v = 2 ^ (k - lastPlace v) :=
    (zpow_sub₀ two_ne_zero _ _).symm
  have places : ((2 ^ (k - lastPlace v).toNat : ℤ) : ℚ) ≤ v / 2 ^ lastPlace v := by
    rw [← zpow_eq_intCast (by omega), ← power]
    exact div_le_div_of_nonneg_right above scale.le
  have rounded := le_roundEven_of_le places
  calc (2 : ℚ) ^ k = ((2 ^ (k - lastPlace v).toNat : ℤ) : ℚ) * 2 ^ lastPlace v := by
        rw [← zpow_eq_intCast (by omega), ← zpow_add₀ two_ne_zero, sub_add_cancel]
    _ ≤ nearest v := by
        unfold nearest
        gcongr

theorem nearest_nonneg {v : ℚ} (nonneg : 0 ≤ v) : 0 ≤ nearest v := by
  have scale : (0 : ℚ) < 2 ^ lastPlace v := zpow_pos two_pos _
  have rounded : (0 : ℤ) ≤ roundEven (v / 2 ^ lastPlace v) :=
    le_roundEven_of_le (by simpa using div_nonneg nonneg scale.le)
  unfold nearest
  positivity

@[simp] theorem nearest_zero : nearest 0 = 0 := by
  simp [nearest, roundEven]

/-- A mantissa on the grid at its exponent has its last place there. -/
theorem lastPlace_grid {m : ℕ} {e : ℤ} (pos : 0 < m) (grid : OnGrid m e) :
    lastPlace (m * 2 ^ e) = e := by
  obtain ⟨short, least, normal | subnormal⟩ := grid
  all_goals
    have log := log_of_mantissa (v := m * 2 ^ e) pos le_rfl
      (by gcongr; exact lt_add_one _)
    have top : m.log2 < 53 := (Nat.log2_lt pos.ne').mpr short
    unfold lastPlace
  · have lead : 52 ≤ m.log2 := (Nat.le_log2 pos.ne').mpr normal
    omega
  · omega

/-- The value of a double rounds to itself. -/
theorem nearest_grid {m : ℕ} {e : ℤ} (pos : 0 < m) (grid : OnGrid m e) :
    nearest (m * 2 ^ e) = m * 2 ^ e := by
  unfold nearest
  rw [lastPlace_grid pos grid, mul_div_cancel_right₀ _ (zpow_ne_zero e two_ne_zero)]
  rw [show (m : ℚ) = ((m : ℤ) : ℚ) from rfl, roundEven_intCast]

/-- At its last place a value has at most 53 binary digits. -/
theorem div_lastPlace_le (v : ℚ) : v / 2 ^ lastPlace v ≤ ((2 ^ 53 : ℤ) : ℚ) := by
  rw [div_le_iff₀ (zpow_pos two_pos _)]
  calc v ≤ 2 ^ (Int.log 2 v + 1) := by
        exact_mod_cast (Int.lt_zpow_succ_log_self (b := 2) (by norm_num) v).le
    _ ≤ 2 ^ ((53 : ℤ) + lastPlace v) := zpow_le_zpow_right₀ one_le_two (by
        unfold lastPlace; omega)
    _ = ((2 ^ 53 : ℤ) : ℚ) * 2 ^ lastPlace v := by
        rw [zpow_add₀ two_ne_zero]; norm_num

/-- At its last place a positive value above the subnormals has all 53 binary digits. -/
theorem le_div_lastPlace {v : ℚ} (pos : 0 < v) (normal : lastPlace v ≠ -1074) :
    ((2 ^ 52 : ℤ) : ℚ) ≤ v / 2 ^ lastPlace v := by
  have place : lastPlace v = Int.log 2 v - 52 := by
    unfold lastPlace at normal ⊢
    omega
  rw [le_div_iff₀ (zpow_pos two_pos _)]
  calc ((2 ^ 52 : ℤ) : ℚ) * 2 ^ lastPlace v = 2 ^ ((52 : ℤ) + lastPlace v) := by
        rw [zpow_add₀ two_ne_zero]; norm_num
    _ = 2 ^ Int.log 2 v := by rw [place]; ring_nf
    _ ≤ v := by exact_mod_cast Int.zpow_log_le_self (b := 2) (by norm_num) pos

/-- Rounding to the nearest double is monotone. -/
theorem nearest_mono {v w : ℚ} (nonneg : 0 ≤ v) (le : v ≤ w) : nearest v ≤ nearest w := by
  rcases nonneg.eq_or_lt with rfl | pos
  · rw [nearest_zero]
    exact nearest_nonneg le
  have logs := Int.log_mono_right (b := 2) pos le
  have places : lastPlace v ≤ lastPlace w := max_le_max (by omega) le_rfl
  rcases places.lt_or_eq with lt | eq
  · -- `w` lies in a higher binade: the power of two that starts it separates the two
    -- roundings, and it lies on the grid near either value
    have higher : Int.log 2 v + 1 ≤ Int.log 2 w := by
      unfold lastPlace at lt
      omega
    have start : (2 : ℚ) ^ Int.log 2 w ≤ w := by
      exact_mod_cast Int.zpow_log_le_self (b := 2) (by norm_num) (pos.trans_le le)
    have end_ : v ≤ 2 ^ Int.log 2 w :=
      calc v ≤ 2 ^ (Int.log 2 v + 1) := by
            exact_mod_cast (Int.lt_zpow_succ_log_self (b := 2) (by norm_num) v).le
        _ ≤ 2 ^ Int.log 2 w := zpow_le_zpow_right₀ one_le_two higher
    have placeW : lastPlace w ≤ Int.log 2 w := by
      unfold lastPlace at lt ⊢
      omega
    exact (nearest_le_zpow end_ (lt.le.trans placeW)).trans (zpow_le_nearest start placeW)
  · have scale : (0 : ℚ) < 2 ^ lastPlace v := zpow_pos two_pos _
    unfold nearest
    rw [← eq]
    gcongr
    exact_mod_cast roundEven_mono (div_le_div_of_nonneg_right le scale.le)

/-- The value of the double nearest to an exact value: the nearest double, or infinity
from `2^1024` on. -/
def roundToDouble (a : WithTop ℚ) : WithTop ℚ :=
  WithTop.recTopCoe ⊤ (fun v => if 2 ^ 1024 ≤ nearest v then ⊤ else (nearest v : WithTop ℚ)) a

@[simp] theorem roundToDouble_top : roundToDouble ⊤ = ⊤ := rfl

theorem roundToDouble_coe (v : ℚ) :
    roundToDouble v = if 2 ^ 1024 ≤ nearest v then ⊤ else (nearest v : WithTop ℚ) := rfl

/-- Rounding to a double is monotone. -/
theorem roundToDouble_mono {a b : WithTop ℚ} (nonneg : 0 ≤ a) (le : a ≤ b) :
    roundToDouble a ≤ roundToDouble b := by
  induction b using WithTop.recTopCoe with
  | top => exact le_top
  | coe w =>
    lift a to ℚ using ne_top_of_le_ne_top WithTop.coe_ne_top le
    have values : nearest a ≤ nearest w :=
      nearest_mono (WithTop.coe_nonneg.mp nonneg) (WithTop.coe_le_coe.mp le)
    rw [roundToDouble_coe, roundToDouble_coe]
    split_ifs with overflowA overflowW overflowW
    · exact le_rfl
    · exact absurd (overflowA.trans values) overflowW
    · exact le_top
    · exact WithTop.coe_le_coe.mpr values

/-- Every finite double is below `2^1024`. -/
theorem grid_lt {m : ℕ} {e : ℤ} (grid : OnGrid m e) (fits : e ≤ 971) :
    (m * 2 ^ e : ℚ) < 2 ^ 1024 :=
  calc (m * 2 ^ e : ℚ) < 2 ^ (53 : ℤ) * 2 ^ e := by
        gcongr
        exact_mod_cast grid.1
    _ ≤ 2 ^ (53 : ℤ) * 2 ^ (971 : ℤ) := by gcongr; exact one_le_two
    _ = 2 ^ 1024 := by rw [← zpow_add₀ two_ne_zero]; norm_num

/-- A form on the grid whose exponent does not fit is at least `2^1024`. -/
theorem le_grid {m : ℕ} {e : ℤ} (grid : OnGrid m e) (beyond : 972 ≤ e) :
    2 ^ 1024 ≤ (m * 2 ^ e : ℚ) := by
  have normal : 2 ^ 52 ≤ m := grid.2.2.resolve_right (by omega)
  calc (2 : ℚ) ^ 1024 = 2 ^ (52 : ℤ) * 2 ^ (972 : ℤ) := by
        rw [← zpow_add₀ two_ne_zero]; norm_num
    _ ≤ m * 2 ^ e := by
        gcongr
        · exact_mod_cast normal
        · exact one_le_two

/-- The value of a double rounds to itself. -/
theorem roundToDouble_grid {m : ℕ} {e : ℤ} (pos : 0 < m) (grid : OnGrid m e) (fits : e ≤ 971) :
    roundToDouble ((m * 2 ^ e : ℚ) : WithTop ℚ) = ((m * 2 ^ e : ℚ) : WithTop ℚ) := by
  rw [roundToDouble_coe, nearest_grid pos grid, if_neg (not_le.mpr (grid_lt grid fits))]

/-! ### The model's rounding -/

/-- What a mantissa with its round and sticky bits says about the exact value `x` it
stands for: `x` is the mantissa, lies below or above the half after it, or is that
half. -/
def Represents (em : ExtendedMantissa) (x : ℚ) : Prop :=
  match em.roundBit, em.stickyBit with
  | false, false => x = em.mantissa
  | false, true => em.mantissa < x ∧ x < em.mantissa + 1 / 2
  | true, false => x = em.mantissa + 1 / 2
  | true, true => em.mantissa + 1 / 2 < x ∧ x < em.mantissa + 1

theorem represents_exact (m : ℕ) :
    Represents (ExtendedMantissa.ofMantissaAndAccuracy m .exact) m := rfl

namespace Represents

variable {em : ExtendedMantissa} {x : ℚ}

theorem floor (rep : Represents em x) : ⌊x⌋ = em.mantissa := by
  rcases em with ⟨m, _ | _, _ | _⟩ <;> simp only [Represents] at rep <;>
    rw [Int.floor_eq_iff] <;> push_cast <;> constructor <;> linarith

/-- The rounded mantissa is the exact value rounded to the nearest integer. -/
theorem roundedMantissa (rep : Represents em x) : (em.roundedMantissa : ℤ) = roundEven x := by
  have floor := rep.floor
  rcases em with ⟨m, _ | _, _ | _⟩ <;> simp only [Represents] at rep <;>
    simp only [roundEven, floor, ExtendedMantissa.roundedMantissa, ExtendedMantissa.accuracy,
      Accuracy.roundToNearestEven] <;> push_cast
  · rw [if_pos (by linarith)]
  · rw [if_pos (by linarith)]
  · rw [if_neg (by linarith), if_neg (by linarith)]
  · rw [if_neg (by linarith), if_pos (by linarith)]

/-- The exact value lies between the mantissa and the next one, at the exponent the
bits were taken at. -/
theorem bounds {v : ℚ} {e : ℤ} (rep : Represents em (v / 2 ^ e)) :
    em.mantissa * 2 ^ e ≤ v ∧ v < (em.mantissa + 1) * 2 ^ e := by
  have scale : (0 : ℚ) < 2 ^ e := zpow_pos two_pos e
  have floor := rep.floor
  constructor
  · have := Int.floor_le (v / 2 ^ e)
    rw [floor] at this
    exact (le_div_iff₀ scale).mp (by exact_mod_cast this)
  · have := Int.lt_floor_add_one (v / 2 ^ e)
    rw [floor] at this
    exact (div_lt_iff₀ scale).mp (by exact_mod_cast this)

/-- Shifting right by one halves the exact value and keeps the bits' meaning. -/
theorem shiftRightOne (rep : Represents em x) : Represents em.shiftRightOne (x / 2) := by
  rcases em with ⟨m, r, s⟩
  have halves : ((m % 2 : ℕ) : ℚ) + 2 * ((m / 2 : ℕ) : ℚ) = m := by
    exact_mod_cast Nat.mod_add_div m 2
  have parity : m % 2 = 0 ∨ m % 2 = 1 := Nat.mod_two_eq_zero_or_one m
  rcases parity with parity | parity <;> rw [parity] at halves <;> push_cast at halves <;>
    cases r <;> cases s <;>
    simp only [Represents, ExtendedMantissa.shiftRightOne, parity] at rep ⊢ <;>
    simp <;> (try constructor) <;> linarith [rep]

theorem shiftRight (rep : Represents em x) (n : ℕ) : Represents (em >>> n) (x / 2 ^ n) := by
  change Represents (n.repeat ExtendedMantissa.shiftRightOne em) _
  induction n with
  | zero => simpa [Nat.repeat] using rep
  | succ n ih =>
    rw [Nat.repeat, pow_succ, ← div_div]
    exact ih.shiftRightOne

end Represents

/-- The target exponent the model rounds a mantissa at an exponent to is the last place
of every value the mantissa stands for. -/
theorem targetExponent_eq_lastPlace {m : ℕ} {e : ℤ} {v : ℚ} (pos : 0 < m)
    (lo : m * 2 ^ e ≤ v) (hi : v < (m + 1) * 2 ^ e) :
    Format.binary64.targetExponent (totalExponent m e) = lastPlace v := by
  rw [lastPlace, log_of_mantissa pos lo hi]
  simp [Format.targetExponent, totalExponent, Format.mantissaBits, Format.minExponent]
  omega

/-- A mantissa below `2^53` at an exponent from `-1074` on is already at its target. -/
theorem shift_short {r : ℕ} {t : ℤ} (short : r < 2 ^ 53) (least : -1074 ≤ t) :
    shiftToTargetExponent .binary64 r t .exact = (⟨r, false, false⟩, t) := by
  have top : r.log2 < 53 := by
    rcases Nat.eq_zero_or_pos r with rfl | pos
    · simp
    · exact (Nat.log2_lt pos.ne').mpr short
  have none : (Format.binary64.targetExponent (totalExponent r t) - t).toNat = 0 := by
    simp [Format.targetExponent, totalExponent, Format.mantissaBits, Format.minExponent]
    omega
  simp only [shiftToTargetExponent, shiftToExponent, none]
  simp [HShiftRight.hShiftRight, Nat.repeat, ExtendedMantissa.ofMantissaAndAccuracy]

/-- A mantissa that rounded up to `2^53` moves to the next exponent. -/
theorem shift_carry {t : ℤ} (least : -1074 ≤ t) :
    shiftToTargetExponent .binary64 (2 ^ 53) t .exact = (⟨2 ^ 52, false, false⟩, t + 1) := by
  have one : (Format.binary64.targetExponent (totalExponent (2 ^ 53) t) - t).toNat = 1 := by
    simp only [Format.targetExponent, totalExponent, Nat.log2_two_pow]
    simp [Format.mantissaBits, Format.minExponent]
    omega
  simp only [shiftToTargetExponent, shiftToExponent, one]
  simp [HShiftRight.hShiftRight, Nat.repeat, ExtendedMantissa.ofMantissaAndAccuracy,
    ExtendedMantissa.shiftRightOne]

/-- The form the model's rounding ends in, from the rounded mantissa `r ≤ 2^53` at its
exponent `t`: zero, `r` itself, or `2^52` one exponent up when `r` carried to `2^53`. -/
def finishRound (s : Sign) (r : ℕ) (t : ℤ) : UnpackedFloat :=
  if h : r = 0 then .zero s
  else if r < 2 ^ 53 then .finite s r t (Nat.pos_of_ne_zero h)
  else .finite s (2 ^ 52) (t + 1) (by positivity)

/-- The model's rounding is its first shift, rounded, and then `finishRound`. -/
theorem roundWithAccuracy_eq {s : Sign} {m : ℕ} {e : ℤ} {acc : Accuracy}
    (short : (shiftToTargetExponent .binary64 m e acc).1.roundedMantissa ≤ 2 ^ 53)
    (least : -1074 ≤ (shiftToTargetExponent .binary64 m e acc).2) :
    roundWithAccuracy .binary64 s m e acc =
      finishRound s (shiftToTargetExponent .binary64 m e acc).1.roundedMantissa
        (shiftToTargetExponent .binary64 m e acc).2 := by
  unfold roundWithAccuracy
  generalize shiftToTargetExponent .binary64 m e acc = first at short least ⊢
  obtain ⟨em, t⟩ := first
  dsimp only at short least ⊢
  rcases short.lt_or_eq with short | carry
  · rw [shift_short short least]
    unfold finishRound
    split_ifs <;> rfl
  · rw [carry, shift_carry least]
    simp [finishRound]

/-- Packing a positive form on the grid gives a double with its value, or infinity when the
exponent does not fit. -/
theorem value?_pack_finite {m : ℕ} {e : ℤ} (pos : 0 < m) (grid : OnGrid m e) :
    value? (unpack .binary64 (pack .binary64 (.finite .positive m e pos))) =
      some (if 2 ^ 1024 ≤ (m * 2 ^ e : ℚ) then ⊤ else ((m * 2 ^ e : ℚ) : WithTop ℚ)) := by
  by_cases fits : e ≤ 971
  · rw [unpack_pack (.finite pos grid fits), if_neg (not_le.mpr (grid_lt grid fits))]
    rfl
  · rw [unpack_pack_overflow pos (by omega), if_pos (le_grid grid (by omega))]
    rfl

/-- Packed and unpacked, the end of a rounding has the value `r · 2^t`, or infinity from
`2^1024` on. -/
theorem value?_finishRound {r : ℕ} {t : ℤ} (short : r ≤ 2 ^ 53) (least : -1074 ≤ t)
    (normal : 2 ^ 52 ≤ r ∨ t = -1074) :
    value? (unpack .binary64 (pack .binary64 (finishRound .positive r t))) =
      some (if 2 ^ 1024 ≤ (r * 2 ^ t : ℚ) then ⊤ else ((r * 2 ^ t : ℚ) : WithTop ℚ)) := by
  by_cases zero : r = 0
  · subst zero
    simp [finishRound, unpack_pack (.zero _), value?]
  by_cases below : r < 2 ^ 53
  · rw [finishRound, dif_neg zero, if_pos below]
    exact value?_pack_finite _ ⟨below, least, normal⟩
  · rw [finishRound, dif_neg zero, if_neg below]
    -- the carry: `2^53 · 2^t` is `2^52 · 2^(t + 1)`, now normal
    have carry : ((2 ^ 52 : ℕ) * 2 ^ (t + 1) : ℚ) = r * 2 ^ t := by
      rw [show r = 2 ^ 53 by omega, zpow_add₀ two_ne_zero]
      push_cast
      ring
    rw [value?_pack_finite _ ⟨by norm_num, by omega, Or.inl le_rfl⟩, carry]

@[simp] theorem ofMantissaAndAccuracy_mantissa (m : ℕ) (acc : Accuracy) :
    (ExtendedMantissa.ofMantissaAndAccuracy m acc).mantissa = m := by
  rcases acc with _ | _ | _ | _ <;> rfl

/-- The model's rounding of a positive mantissa at an exponent below its target, with
round and sticky bits that stand for the exact value `v`, gives the double nearest to
`v`, or infinity from `2^1024` on. -/
theorem value?_roundWithAccuracy {m : ℕ} {e : ℤ} {acc : Accuracy} {v : ℚ} (pos : 0 < m)
    (rep : Represents (.ofMantissaAndAccuracy m acc) (v / 2 ^ e))
    (below : e ≤ Format.binary64.targetExponent (totalExponent m e)) :
    value? (unpack .binary64 (pack .binary64 (roundWithAccuracy .binary64 .positive m e acc))) =
      some (roundToDouble v) := by
  obtain ⟨lo, hi⟩ := rep.bounds
  rw [ofMantissaAndAccuracy_mantissa] at lo hi
  have vpos : 0 < v := lt_of_lt_of_le (by positivity) lo
  have target := targetExponent_eq_lastPlace pos lo hi
  have least : -1074 ≤ lastPlace v := le_max_right _ _
  -- the first shift brings the mantissa to the last place of `v`
  have first : shiftToTargetExponent .binary64 m e acc =
      (ExtendedMantissa.ofMantissaAndAccuracy m acc >>> (lastPlace v - e).toNat,
        lastPlace v) := by
    simp only [shiftToTargetExponent, shiftToExponent, target]
    congr 1
    omega
  have atPlace : v / 2 ^ e / 2 ^ (lastPlace v - e).toNat = v / 2 ^ lastPlace v := by
    rw [div_div, ← zpow_natCast, ← zpow_add₀ two_ne_zero, Int.toNat_of_nonneg (by omega),
      add_sub_cancel]
  have rounded := (rep.shiftRight (lastPlace v - e).toNat).roundedMantissa
  rw [atPlace] at rounded
  set r := (ExtendedMantissa.ofMantissaAndAccuracy m acc >>>
    (lastPlace v - e).toNat).roundedMantissa
  have nearestEq : nearest v = r * 2 ^ lastPlace v := by
    unfold nearest
    rw [← rounded]
    push_cast
    rfl
  -- the rounded mantissa has at most 53 bits, and 53 unless it is subnormal
  have short : r ≤ 2 ^ 53 := by
    have := roundEven_le_of_le (div_lastPlace_le v)
    omega
  have normal : 2 ^ 52 ≤ r ∨ lastPlace v = -1074 := by
    by_cases subnormal : lastPlace v = -1074
    · exact Or.inr subnormal
    · have := le_roundEven_of_le (le_div_lastPlace vpos subnormal)
      omega
  rw [roundWithAccuracy_eq (by rw [first]; exact short) (by rw [first]; exact least), first]
  rw [value?_finishRound short least normal, roundToDouble_coe, nearestEq]

/-! ### Products -/

/-- The exact product of two forms on the grid is at or below its target exponent: either
its mantissa has at least 53 bits, or both factors are subnormal. -/
theorem mul_exponent_le {m m' : ℕ} {e e' : ℤ} (pos : 0 < m) (pos' : 0 < m')
    (grid : OnGrid m e) (grid' : OnGrid m' e') :
    e + e' ≤ Format.binary64.targetExponent (totalExponent (m * m') (e + e')) := by
  simp only [Format.targetExponent, totalExponent, Format.mantissaBits, Format.minExponent]
  by_cases wide : 2 ^ 52 ≤ m * m'
  · have := (Nat.le_log2 (Nat.mul_pos pos pos').ne').mpr wide
    norm_num
    omega
  · have subnormal : e = -1074 := grid.2.2.resolve_left fun normal =>
      wide (normal.trans (Nat.le_mul_of_pos_right m pos'))
    have subnormal' : e' = -1074 := grid'.2.2.resolve_left fun normal =>
      wide (normal.trans (Nat.le_mul_of_pos_left m' pos))
    norm_num
    omega

/-- The model's product of doubles, as unpacked forms. -/
theorem unpack_mul (x y : Float) :
    (x * y).toModel.unpack =
      unpack .binary64 (pack .binary64 (UnpackedFloat.mul .binary64 x.toModel.unpack
        y.toModel.unpack)) := rfl

/-- The product of two positive doubles is their exact product rounded once to a double. -/
theorem valueOf?_mul {x y : Float} {a b : WithTop ℚ} (hx : valueOf? x = some a)
    (hy : valueOf? y = some b) (ha : 0 < a) (hb : 0 < b) :
    valueOf? (x * y) = some (roundToDouble (a * b)) := by
  unfold valueOf? at hx hy ⊢
  rw [unpack_mul]
  rcases eq_of_value?_eq_some (canonical x) hx with ⟨ex, rfl⟩ | ⟨s, -, rfl⟩ |
      ⟨m, e, pos, ex, grid, -, rfl⟩ <;>
    rcases eq_of_value?_eq_some (canonical y) hy with ⟨ey, rfl⟩ | ⟨s', -, rfl⟩ |
      ⟨m', e', pos', ey, grid', -, rfl⟩
  all_goals first | exact absurd ha (lt_irrefl 0) | exact absurd hb (lt_irrefl 0) | skip
  · rw [ex, ey, WithTop.top_mul WithTop.top_ne_zero]
    rfl
  · rw [ex, ey, WithTop.top_mul hb.ne']
    simp only [UnpackedFloat.mul]
    rfl
  · rw [ex, ey, WithTop.mul_top ha.ne']
    simp only [UnpackedFloat.mul]
    rfl
  · rw [ex, ey, ← WithTop.coe_mul]
    refine value?_roundWithAccuracy (Nat.mul_pos pos pos') ?_ (mul_exponent_le pos pos' grid grid')
    have exact : (m * 2 ^ e * (m' * 2 ^ e') : ℚ) / 2 ^ (e + e') = ((m * m' : ℕ) : ℚ) := by
      rw [zpow_add₀ two_ne_zero]
      field_simp
      push_cast
      ring
    rw [exact]
    exact represents_exact _

/-- A double's value rounds to itself. -/
theorem roundToDouble_of_valueOf? {x : Float} {a : WithTop ℚ} (hx : valueOf? x = some a) :
    roundToDouble a = a := by
  rcases eq_of_value?_eq_some (canonical x) hx with ⟨-, rfl⟩ | ⟨s, -, rfl⟩ |
      ⟨m, e, pos, -, grid, fits, rfl⟩
  · rfl
  · rw [← WithTop.coe_zero, roundToDouble_coe, nearest_zero, if_neg (by norm_num)]
  · exact roundToDouble_grid pos grid fits

/-- Multiplying by a positive value is monotone on positive values, infinity included. -/
theorem mul_le_mul_of_pos {a b b' : WithTop ℚ} (ha : 0 < a) (hb : 0 < b) (le : b ≤ b') :
    a * b ≤ a * b' := by
  induction b' using WithTop.recTopCoe with
  | top => rw [WithTop.mul_top ha.ne']; exact le_top
  | coe q' =>
    lift b to ℚ using ne_top_of_le_ne_top WithTop.coe_ne_top le
    induction a using WithTop.recTopCoe with
    | top => rw [WithTop.top_mul hb.ne', WithTop.top_mul (hb.trans_le le).ne']
    | coe p =>
      rw [← WithTop.coe_mul, ← WithTop.coe_mul, WithTop.coe_le_coe]
      exact mul_le_mul_of_nonneg_left (WithTop.coe_le_coe.mp le) (WithTop.coe_pos.mp ha).le

theorem mul_pos_of_pos {a b : WithTop ℚ} (ha : 0 < a) (hb : 0 < b) : 0 < a * b := by
  induction b using WithTop.recTopCoe with
  | top => rw [WithTop.mul_top ha.ne']; exact WithTop.coe_lt_top 0
  | coe q =>
    induction a using WithTop.recTopCoe with
    | top => rw [WithTop.top_mul hb.ne']; exact WithTop.coe_lt_top 0
    | coe p =>
      rw [← WithTop.coe_mul]
      exact WithTop.coe_pos.mpr (mul_pos (WithTop.coe_pos.mp ha) (WithTop.coe_pos.mp hb))

section Products

variable {x y y' : Float} {a b b' : WithTop ℚ}

/-- Multiplying by a positive double is monotone in the other factor. -/
theorem mul_le_mul_left_of_le (hx : valueOf? x = some a) (hy : valueOf? y = some b)
    (hy' : valueOf? y' = some b') (ha : 0 < a) (hb : 0 < b) (le : y ≤ y') : x * y ≤ x * y' := by
  have values : b ≤ b' := (le_iff hy hy').mp le
  rw [le_iff (valueOf?_mul hx hy ha hb) (valueOf?_mul hx hy' ha (hb.trans_le values))]
  exact roundToDouble_mono (mul_pos_of_pos ha hb).le (mul_le_mul_of_pos ha hb values)

/-- A positive double times a double of at least one is at least the first. -/
theorem le_mul_of_one_le (hx : valueOf? x = some a) (hy : valueOf? y = some b) (ha : 0 < a)
    (one : 1 ≤ b) : x ≤ x * y := by
  have hb : 0 < b := lt_of_lt_of_le (by norm_num) one
  rw [le_iff hx (valueOf?_mul hx hy ha hb)]
  calc a = roundToDouble (a * 1) := by rw [mul_one, roundToDouble_of_valueOf? hx]
    _ ≤ roundToDouble (a * b) :=
        roundToDouble_mono (by rw [mul_one]; exact ha.le) (mul_le_mul_of_pos ha one_pos one)

end Products

/-! ### Quotients -/

/-- The accuracy of a quotient's remainder says where the exact quotient lies. -/
theorem represents_fraction (n r d : ℕ) (pos : 0 < d) (rem : r < d) :
    Represents (.ofMantissaAndAccuracy n (accuracyOfFraction r d)) (n + r / d) := by
  have dpos : (0 : ℚ) < d := by exact_mod_cast pos
  have below : (r : ℚ) / d < 1 := (div_lt_one dpos).mpr (by exact_mod_cast rem)
  unfold accuracyOfFraction
  split_ifs with zero
  · subst zero
    simp [Represents, ExtendedMantissa.ofMantissaAndAccuracy]
  · have above : (0 : ℚ) < r / d := div_pos (by exact_mod_cast Nat.pos_of_ne_zero zero) dpos
    rcases lt_trichotomy (2 * r) d with lt | eq | gt
    · have half : (r : ℚ) / d < 1 / 2 := by
        rw [div_lt_iff₀ dpos]
        have : (2 * r : ℚ) < d := by exact_mod_cast lt
        linarith
      simp only [Nat.compare_eq_lt.mpr lt, Represents, ExtendedMantissa.ofMantissaAndAccuracy]
      constructor <;> linarith
    · have half : (r : ℚ) / d = 1 / 2 := by
        rw [div_eq_iff dpos.ne']
        have : (2 * r : ℚ) = d := by exact_mod_cast eq
        linarith
      simp only [Nat.compare_eq_eq.mpr eq, Represents, ExtendedMantissa.ofMantissaAndAccuracy]
      linarith
    · have half : 1 / 2 < (r : ℚ) / d := by
        rw [lt_div_iff₀ dpos]
        have : (d : ℚ) < 2 * r := by exact_mod_cast gt
        linarith
      simp only [Nat.compare_eq_gt.mpr gt, Represents, ExtendedMantissa.ofMantissaAndAccuracy]
      constructor <;> linarith

/-- The binary logarithm of a quotient is at least the difference of the logarithms,
less one. -/
theorem log_sub_log_le_log_div {p q : ℚ} (hp : 0 < p) (hq : 0 < q) :
    Int.log 2 p - Int.log 2 q - 1 ≤ Int.log 2 (p / q) := by
  apply (Int.zpow_le_iff_le_log (b := 2) (by norm_num) (div_pos hp hq)).mp
  push_cast
  calc (2 : ℚ) ^ (Int.log 2 p - Int.log 2 q - 1) = 2 ^ Int.log 2 p / 2 ^ (Int.log 2 q + 1) := by
        rw [← zpow_sub₀ two_ne_zero]; ring_nf
    _ ≤ p / q := by
        apply div_le_div₀ hp.le
        · exact_mod_cast Int.zpow_log_le_self (b := 2) (by norm_num) hp
        · exact hq
        · exact_mod_cast (Int.lt_zpow_succ_log_self (b := 2) (by norm_num) q).le

/-- The dividend's mantissa shifted left by `e - e' - t` places and divided by the
divisor's mantissa is the exact quotient at the exponent `t`: an integer part and a
remainder. -/
theorem div_shifted {m m' : ℕ} {e e' t : ℤ} (pos' : 0 < m') (shift : t ≤ e - e') :
    (m * 2 ^ e / (m' * 2 ^ e') : ℚ) / 2 ^ t =
      ((m * 2 ^ (e - e' - t).toNat / m' : ℕ) : ℚ) +
        ((m * 2 ^ (e - e' - t).toNat % m' : ℕ) : ℚ) / m' := by
  have dpos : (0 : ℚ) < m' := by exact_mod_cast pos'
  have split := Nat.div_add_mod (m * 2 ^ (e - e' - t).toNat) m'
  have power : ((2 ^ (e - e' - t).toNat : ℕ) : ℚ) = 2 ^ e / 2 ^ e' / 2 ^ t := by
    rw [Nat.cast_pow, Nat.cast_ofNat, ← zpow_natCast, Int.toNat_of_nonneg (by omega),
      zpow_sub₀ two_ne_zero, zpow_sub₀ two_ne_zero]
  have cast : ((m * 2 ^ (e - e' - t).toNat : ℕ) : ℚ) =
      m' * ((m * 2 ^ (e - e' - t).toNat / m' : ℕ) : ℚ) +
        ((m * 2 ^ (e - e' - t).toNat % m' : ℕ) : ℚ) := by
    exact_mod_cast split.symm
  rw [Nat.cast_mul, power] at cast
  calc (m * 2 ^ e / (m' * 2 ^ e') : ℚ) / 2 ^ t = m * (2 ^ e / 2 ^ e' / 2 ^ t) / m' := by ring
    _ = (m' * ((m * 2 ^ (e - e' - t).toNat / m' : ℕ) : ℚ) +
          ((m * 2 ^ (e - e' - t).toNat % m' : ℕ) : ℚ)) / m' := by rw [cast]
    _ = _ := by field_simp

/-- The quotient of two positive forms on the grid, the divisor not above the dividend, is
the exact quotient rounded once. The model shifts the dividend's mantissa so that the
integer quotient has every bit the result needs, and reads the round and sticky bits off
the remainder. -/
theorem value?_div_finite {m m' : ℕ} {e e' : ℤ} (pos : 0 < m) (pos' : 0 < m')
    (le : (m' * 2 ^ e' : ℚ) ≤ m * 2 ^ e) :
    value? (unpack .binary64 (pack .binary64 (UnpackedFloat.div .binary64
        (.finite .positive m e pos) (.finite .positive m' e' pos')))) =
      some (roundToDouble ((m * 2 ^ e / (m' * 2 ^ e') : ℚ) : WithTop ℚ)) := by
  simp only [UnpackedFloat.div, divCore, Nat.shiftLeft_eq]
  set tgt := min (e - e') (Format.binary64.targetExponent (totalExponent m e -
    totalExponent m' e')) with htgt
  set v : ℚ := m * 2 ^ e / (m' * 2 ^ e')
  have qpos : (0 : ℚ) < m' * 2 ^ e' := by positivity
  have ppos : (0 : ℚ) < m * 2 ^ e := qpos.trans_le le
  have one : 1 ≤ v := (one_le_div qpos).mpr le
  have rep := represents_fraction (m * 2 ^ (e - e' - tgt).toNat / m')
    (m * 2 ^ (e - e' - tgt).toNat % m') m' pos' (Nat.mod_lt _ pos')
  rw [← div_shifted pos' (min_le_left _ _)] at rep
  obtain ⟨lo, hi⟩ := rep.bounds
  rw [ofMantissaAndAccuracy_mantissa] at lo hi
  -- the target exponent the model picks is at or below the last place of `v`, which is at
  -- or below the leading bit of `v ≥ 1`; so the integer quotient is positive
  have logp := log_of_mantissa (v := m * 2 ^ e) pos le_rfl
    (mul_lt_mul_of_pos_right (lt_add_one _) (zpow_pos two_pos e))
  have logq := log_of_mantissa (v := m' * 2 ^ e') pos' le_rfl
    (mul_lt_mul_of_pos_right (lt_add_one _) (zpow_pos two_pos e'))
  have logv : Int.log 2 (m * 2 ^ e : ℚ) - Int.log 2 (m' * 2 ^ e' : ℚ) - 1 ≤ Int.log 2 v :=
    log_sub_log_le_log_div ppos qpos
  have place : tgt ≤ lastPlace v := by
    have chosen : tgt ≤ Format.binary64.targetExponent (totalExponent m e -
        totalExponent m' e') := min_le_right _ _
    simp only [Format.targetExponent, totalExponent, Format.mantissaBits,
      Format.minExponent] at chosen
    unfold lastPlace
    norm_num at chosen
    omega
  have vpos : 0 < v := one_pos.trans_le one
  have lead : 0 ≤ Int.log 2 v :=
    (Int.zpow_le_iff_le_log (b := 2) (by norm_num) vpos).mp (by simpa using one)
  have reach : (2 : ℚ) ^ tgt ≤ v :=
    calc (2 : ℚ) ^ tgt ≤ 2 ^ Int.log 2 v := zpow_le_zpow_right₀ one_le_two (by
          unfold lastPlace at place; omega)
      _ ≤ v := by exact_mod_cast Int.zpow_log_le_self (b := 2) (by norm_num) vpos
  have quotient : 0 < m * 2 ^ (e - e' - tgt).toNat / m' := by
    by_contra zero
    rw [Nat.eq_zero_of_not_pos zero] at hi
    push_cast at hi
    linarith
  exact value?_roundWithAccuracy quotient rep
    ((targetExponent_eq_lastPlace quotient lo hi).symm ▸ place)

/-- The model's quotient of doubles, as unpacked forms. -/
theorem unpack_div (x y : Float) :
    (x / y).toModel.unpack =
      unpack .binary64 (pack .binary64 (UnpackedFloat.div .binary64 x.toModel.unpack
        y.toModel.unpack)) := rfl

/-- The quotient of a double by a positive finite double not above it is the exact
quotient rounded once to a double. -/
theorem valueOf?_div {x y : Float} {a : WithTop ℚ} {q : ℚ} (hx : valueOf? x = some a)
    (hy : valueOf? y = some q) (pos : 0 < q) (le : (q : WithTop ℚ) ≤ a) :
    valueOf? (x / y) = some (roundToDouble (a * ((q⁻¹ : ℚ) : WithTop ℚ))) := by
  unfold valueOf? at hx hy ⊢
  rw [unpack_div]
  rcases eq_of_value?_eq_some (canonical y) hy with ⟨-, top⟩ | ⟨s', -, zero⟩ |
      ⟨m', e', pos', ey, -, -, hq⟩
  · exact absurd top WithTop.coe_ne_top
  · exact absurd (WithTop.coe_eq_zero.mp zero) pos.ne'
  rw [ey]
  rw [WithTop.coe_inj] at hq
  subst hq
  rcases eq_of_value?_eq_some (canonical x) hx with ⟨ex, rfl⟩ | ⟨s, -, rfl⟩ |
      ⟨m, e, pos, ex, -, -, rfl⟩
  · rw [ex, WithTop.top_mul (WithTop.coe_ne_zero.mpr (inv_ne_zero pos.ne'))]
    simp only [UnpackedFloat.div]
    rfl
  · exact absurd le (not_le.mpr (WithTop.coe_lt_coe.mpr pos))
  · rw [ex, ← WithTop.coe_mul, ← div_eq_mul_inv]
    exact value?_div_finite _ _ (WithTop.coe_le_coe.mp le)

/-- One as a double. -/
theorem roundToDouble_one : roundToDouble 1 = 1 := by
  have one : (((2 ^ 52 : ℕ) : ℚ) * 2 ^ (-52 : ℤ)) = 1 := by norm_num
  have := roundToDouble_grid (m := 2 ^ 52) (e := -52) (by positivity)
    ⟨by norm_num, by norm_num, Or.inl le_rfl⟩ (by norm_num)
  rwa [one, WithTop.coe_one] at this

/-- The quotient of a double by a positive finite double not above it is at least one. -/
theorem one_le_valueOf?_div {x y : Float} {a : WithTop ℚ} {q : ℚ} (hx : valueOf? x = some a)
    (hy : valueOf? y = some q) (pos : 0 < q) (le : (q : WithTop ℚ) ≤ a) :
    ∃ c, valueOf? (x / y) = some c ∧ 1 ≤ c := by
  refine ⟨_, valueOf?_div hx hy pos le, ?_⟩
  rw [← roundToDouble_one]
  apply roundToDouble_mono zero_le_one
  induction a using WithTop.recTopCoe with
  | top => rw [WithTop.top_mul (WithTop.coe_ne_zero.mpr (inv_ne_zero pos.ne'))]; exact le_top
  | coe p =>
    rw [← WithTop.coe_mul, ← WithTop.coe_one, WithTop.coe_le_coe, ← div_eq_mul_inv,
      one_le_div pos]
    exact WithTop.coe_le_coe.mp le

end PublishPool.Double
