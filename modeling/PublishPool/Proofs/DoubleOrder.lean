import Mathlib
import PublishPool.Num

/-!
The order of doubles by value.

A double unpacks into a sign, a mantissa and an exponent (`Float.Model.unpack`), and
unpacking only ever gives canonical forms: a 53-bit mantissa with an exponent in
`[-1074, 971]`, or a shorter mantissa at the least exponent (`canonical_unpack`).
Packing a canonical form and unpacking it again gives it back, and a form on the grid
whose exponent is beyond the largest overflows to infinity (`unpack_pack`,
`unpack_pack_overflow`).

On canonical forms the model's comparison, which looks at the exponents first and at
the mantissas second, is the order of the values (`compare_eq_some`). So for doubles
that are zero, positive or positive infinity, `<`, `≤` and `==` are the order and the
equality of their values in `WithTop ℚ` (`lt_iff`, `le_iff`, `beq_iff`), and so is the
exact order of two such numbers (`order_floats`).

The library's own reading of a double's bits, `Binary.ofFloat`, is the model's
unpacking with the sign as a flag (`ofFloat_eq_partsOf`).
-/

namespace PublishPool.Double

open Float.Model Float.Model.UnpackedFloat PublishPool.Number

/-! ### Canonical forms -/

/-- A finite double's mantissa and exponent as rounding leaves them, before the bound on
the exponent: a mantissa below `2^53`, normal (at least `2^52`) unless the exponent is
the least one. -/
def OnGrid (m : ℕ) (e : ℤ) : Prop :=
  m < 2 ^ 53 ∧ -1074 ≤ e ∧ (2 ^ 52 ≤ m ∨ e = -1074)

/-- The unpacked forms that unpacking a double gives: the special values, and finite
ones on the grid whose exponent fits in eleven bits. -/
inductive Canonical : UnpackedFloat → Prop
  | notANumber : Canonical .notANumber
  | infinity (s : Sign) : Canonical (.infinity s)
  | zero (s : Sign) : Canonical (.zero s)
  | finite {s : Sign} {m : ℕ} {e : ℤ} (pos : 0 < m) (grid : OnGrid m e) (fits : e ≤ 971) :
      Canonical (.finite s m e pos)

section Fields

variable (b : BitVec 64)

theorem unpackExponent_toNat :
    (@unpackExponent Format.binary64 b).toNat = b.toNat / 2 ^ 52 % 2 ^ 11 := by
  simp [unpackExponent, BitVec.extractLsb_toNat, Nat.shiftRight_eq_div_pow]

theorem unpackMantissa_toNat :
    (@unpackMantissa Format.binary64 b).toNat = b.toNat % 2 ^ 52 := by
  simp [unpackMantissa, BitVec.extractLsb_toNat]

theorem unpackSign_toNat :
    (@unpackSign Format.binary64 b).toNat = b.toNat / 2 ^ 63 % 2 := by
  simp [unpackSign, BitVec.extractLsb_toNat, Nat.shiftRight_eq_div_pow]

/-- A normal mantissa is the fraction with the hidden bit put back. -/
theorem normal_mantissa_toNat :
    (1#1 ++ @unpackMantissa Format.binary64 b).toNat = b.toNat % 2 ^ 52 + 2 ^ 52 := by
  have hlt : b.toNat % 2 ^ 52 < 2 ^ 52 := Nat.mod_lt _ (by norm_num)
  rw [BitVec.toNat_append, unpackMantissa_toNat, ← Nat.shiftLeft_add_eq_or_of_lt hlt]
  simp [Nat.shiftLeft_eq]
  omega

/-- The sign is negative exactly when the top bit is set. -/
theorem ofBitVec_unpackSign_negative :
    (Sign.ofBitVec (@unpackSign Format.binary64 b) == .negative) =
      (b.toNat / 2 ^ 63 % 2 == 1) := by
  have hs := unpackSign_toNat b
  unfold Sign.ofBitVec
  by_cases h : @unpackSign Format.binary64 b = 0#1
  · rw [h] at hs
    have h0 : b.toNat / 2 ^ 63 % 2 = 0 := by simpa using hs.symm
    simp [h]
    omega
  · have : (@unpackSign Format.binary64 b).toNat ≠ 0 := fun h0 =>
      h (BitVec.eq_of_toNat_eq h0)
    have h1 : b.toNat / 2 ^ 63 % 2 = 1 := by omega
    simp [h]
    omega

/-- Unpacking, read on the bits as a natural number: the exponent field and the
fraction decide between the special values, subnormals and normal doubles. -/
theorem unpack_eq :
    unpack .binary64 b =
      let sign := Sign.ofBitVec (@unpackSign .binary64 b)
      if b.toNat / 2 ^ 52 % 2 ^ 11 = 2047 then
        if b.toNat % 2 ^ 52 = 0 then .infinity sign else .notANumber
      else if b.toNat / 2 ^ 52 % 2 ^ 11 = 0 then
        if h : b.toNat % 2 ^ 52 = 0 then .zero sign
        else .finite sign (b.toNat % 2 ^ 52) (-1074) (by omega)
      else
        .finite sign (b.toNat % 2 ^ 52 + 2 ^ 52) ((b.toNat / 2 ^ 52 % 2 ^ 11 : ℕ) - 1075)
          (by omega) := by
  unfold UnpackedFloat.unpack
  simp only
  simp only [← BitVec.toNat_inj, unpackExponent_toNat, unpackMantissa_toNat,
    show (-1#11 : BitVec 11).toNat = 2047 from rfl, BitVec.toNat_ofNat, Nat.zero_mod]
  split_ifs with special nan zero subnormal
  · rfl
  · rfl
  · rfl
  · simp only [zero, finite.injEq, true_and]
    rfl
  · simp only [finite.injEq, true_and]
    exact ⟨normal_mantissa_toNat b, by simp [Format.exponentBias]⟩

end Fields

/-- Unpacking a double gives a canonical form. -/
theorem canonical_unpack (b : BitVec 64) : Canonical (unpack .binary64 b) := by
  have field := Nat.mod_lt (b.toNat / 2 ^ 52) (show 0 < 2 ^ 11 by norm_num)
  have frac := Nat.mod_lt b.toNat (show 0 < 2 ^ 52 by norm_num)
  rw [unpack_eq]
  split_ifs with special nan zero subnormal
  · exact .infinity _
  · exact .notANumber
  · exact .zero _
  · exact .finite _ ⟨by omega, by omega, Or.inr rfl⟩ (by omega)
  · exact .finite _ ⟨by omega, by omega, Or.inl (by omega)⟩ (by omega)

/-- The parts the library reads off a double: the sign becomes a flag. -/
def partsOf : UnpackedFloat → Binary
  | .notANumber => .nan
  | .infinity s => .inf (s == .negative)
  | .zero s => .zero (s == .negative)
  | .finite s m e _ => .finite (s == .negative) m e

/-- The library's bit reader agrees with the model's unpacking. -/
theorem ofFloat_eq_partsOf (x : Float) : Binary.ofFloat x = partsOf x.toModel.unpack := by
  have hbits : x.toBits.toNat = x.toModel.toBits.toBitVec.toNat := rfl
  unfold Binary.ofFloat Float.Model.unpack
  generalize x.toModel.toBits.toBitVec = b at hbits ⊢
  rw [unpack_eq, hbits]
  -- the two sides spell the powers of two with different instances: evaluated, they agree
  simp only [fractionBits, Nat.pow_eq, Nat.reducePow]
  by_cases special : b.toNat / 4503599627370496 % 2048 = 2047
  · by_cases nan : b.toNat % 4503599627370496 = 0 <;>
      simp [special, nan, partsOf, ofBitVec_unpackSign_negative]
  · by_cases zero : b.toNat / 4503599627370496 % 2048 = 0 <;>
      by_cases sub : b.toNat % 4503599627370496 = 0 <;>
      simp [special, zero, sub, partsOf, ofBitVec_unpackSign_negative]

/-! ### Packing -/

@[simp] theorem unpackSign_packComponents (s : Sign) (e : BitVec 11) (m : BitVec 52) :
    Sign.ofBitVec (unpackSign (packComponents .binary64 s e m)) = s := by
  simp only [unpackSign, packComponents, BitVec.extractLsb]
  rw [BitVec.extractLsb'_append_eq_of_le (by omega),
    BitVec.extractLsb'_append_eq_of_le (by omega)]
  cases s <;> rfl

/-- A normal form whose exponent fits survives packing. -/
theorem unpack_pack_normal {s : Sign} {m : ℕ} {e : ℤ} (pos : 0 < m) (normal : 2 ^ 52 ≤ m)
    (short : m < 2 ^ 53) (least : -1074 ≤ e) (fits : e ≤ 971) :
    unpack .binary64 (pack .binary64 (.finite s m e pos)) = .finite s m e pos := by
  have hlog : m.log2 = 52 := by
    have h1 : 52 ≤ m.log2 := (Nat.le_log2 (by omega)).mpr normal
    have h2 : m.log2 < 53 := (Nat.log2_lt (by omega)).mpr short
    omega
  have field : (BitVec.ofNat 11 (e + 1075).toNat).toNat = (e + 1075).toNat := by
    rw [BitVec.toNat_ofNat, Nat.mod_eq_of_lt (by omega)]
  have notSpecial : BitVec.ofNat 11 (e + 1075).toNat ≠ -1#11 := by
    intro h
    have := congrArg BitVec.toNat h
    rw [field] at this
    simp at this
    omega
  have notSubnormal : BitVec.ofNat 11 (e + 1075).toNat ≠ 0#11 := by
    intro h
    have := congrArg BitVec.toNat h
    rw [field] at this
    simp at this
    omega
  have mantissa : (1#1 ++ BitVec.ofNat 52 m).toNat = m := by
    rw [BitVec.toNat_append, ← Nat.shiftLeft_add_eq_or_of_lt (BitVec.ofNat 52 m).isLt,
      BitVec.toNat_ofNat, Nat.shiftLeft_eq]
    simp
    omega
  have bias : ((Format.binary64.exponentBias : ℕ) : ℤ) = 1023 := rfl
  rw [UnpackedFloat.pack]
  simp only [hlog, bias, show (e + 1023 + ((52 : ℕ) : ℤ)).toNat = (e + 1075).toNat by omega]
  rw [if_neg (by norm_num; omega), if_pos (by simp [Format.mantissaBits]), UnpackedFloat.unpack]
  simp only [unpackMantissa_packComponents, unpackExponent_packComponents,
    unpackSign_packComponents]
  simp only [notSpecial, notSubnormal, if_false, mantissa, field, bias]
  congr 1
  omega

/-- A subnormal form survives packing. -/
theorem unpack_pack_subnormal {s : Sign} {m : ℕ} (pos : 0 < m) (subnormal : m < 2 ^ 52) :
    unpack .binary64 (pack .binary64 (.finite s m (-1074) pos)) = .finite s m (-1074) pos := by
  have hlog : m.log2 < 52 := (Nat.log2_lt (by omega)).mpr subnormal
  have mantissa : (BitVec.ofNat 52 m).toNat = m := by
    rw [BitVec.toNat_ofNat, Nat.mod_eq_of_lt subnormal]
  have nonzero : BitVec.ofNat 52 m ≠ 0#52 := by
    intro h
    have := congrArg BitVec.toNat h
    rw [mantissa] at this
    simp at this
    omega
  rw [UnpackedFloat.pack]
  simp only [show ¬ m.log2 + 1 = Format.binary64.mantissaBits by
    simp [Format.mantissaBits]; omega]
  rw [if_neg (by decide), if_neg (by simp), UnpackedFloat.unpack]
  simp only [unpackMantissa_packComponents, unpackExponent_packComponents,
    unpackSign_packComponents]
  simp only [show (0#11 : BitVec 11) ≠ -1#11 by decide, if_false, if_true, nonzero,
    dite_false, mantissa]
  rfl

/-- A finite form whose exponent is beyond the largest double's packs to infinity. -/
theorem unpack_pack_overflow {s : Sign} {m : ℕ} {e : ℤ} (pos : 0 < m) (beyond : 972 ≤ e) :
    unpack .binary64 (pack .binary64 (.finite s m e pos)) = .infinity s := by
  have bias : ((Format.binary64.exponentBias : ℕ) : ℤ) = 1023 := rfl
  rw [UnpackedFloat.pack]
  simp only [bias]
  rw [if_pos (by norm_num; omega)]
  cases s <;> rfl

/-- Packing a canonical form and unpacking it gives it back. -/
theorem unpack_pack {u : UnpackedFloat} (canonical : Canonical u) :
    unpack .binary64 (pack .binary64 u) = u := by
  cases canonical with
  | notANumber => rfl
  | infinity s => cases s <;> rfl
  | zero s => cases s <;> rfl
  | @finite s m e pos grid fits =>
    obtain ⟨short, least, normal | subnormal⟩ := grid
    · exact unpack_pack_normal pos normal short least fits
    · subst subnormal
      by_cases small : m < 2 ^ 52
      · exact unpack_pack_subnormal pos small
      · exact unpack_pack_normal pos (by omega) short le_rfl (by norm_num)

/-! ### Values and their order -/

/-- The value of an unpacked double that is zero, positive or positive infinity; NaN and
the doubles below zero have none here. -/
def value? : UnpackedFloat → Option (WithTop ℚ)
  | .zero _ => some 0
  | .finite .positive m e _ => some ((m * 2 ^ e : ℚ) : WithTop ℚ)
  | .infinity .positive => some ⊤
  | _ => none

/-- Of two forms on the grid, the one with the smaller exponent has the smaller value. -/
theorem value_lt_of_exponent_lt {m m' : ℕ} {e e' : ℤ} (grid : OnGrid m e)
    (grid' : OnGrid m' e') (lt : e < e') : (m * 2 ^ e : ℚ) < m' * 2 ^ e' := by
  obtain ⟨short, least, -⟩ := grid
  have normal' : 2 ^ 52 ≤ m' := grid'.2.2.resolve_right (by omega)
  calc (m * 2 ^ e : ℚ) < 2 ^ (53 : ℤ) * 2 ^ e := by
        gcongr
        exact_mod_cast short
    _ = 2 ^ (e + 53) := by rw [zpow_add₀ two_ne_zero, mul_comm]
    _ ≤ 2 ^ (e' + 52) := zpow_le_zpow_right₀ one_le_two (by omega)
    _ = 2 ^ (52 : ℤ) * 2 ^ e' := by rw [zpow_add₀ two_ne_zero, mul_comm]
    _ ≤ m' * 2 ^ e' := by
        gcongr
        exact_mod_cast normal'

/-- On forms on the grid, the model's comparison of positive finite doubles, by exponent
first and mantissa second, is the comparison of their values. -/
theorem compare_finite {m m' : ℕ} {e e' : ℤ} (grid : OnGrid m e) (grid' : OnGrid m' e') :
    (compare e e').then (compare m m') = compare (m * 2 ^ e : ℚ) (m' * 2 ^ e') := by
  rcases lt_trichotomy e e' with lt | rfl | gt
  · rw [compare_lt_iff_lt.mpr lt, compare_lt_iff_lt.mpr (value_lt_of_exponent_lt grid grid' lt)]
    rfl
  · have scale : (0 : ℚ) < 2 ^ e := zpow_pos two_pos e
    rw [compare_eq_iff_eq.mpr rfl, Ordering.eq_then]
    rcases lt_trichotomy m m' with lt | rfl | gt
    · rw [compare_lt_iff_lt.mpr lt, compare_lt_iff_lt.mpr (by gcongr)]
    · rw [compare_eq_iff_eq.mpr rfl, compare_eq_iff_eq.mpr rfl]
    · rw [compare_gt_iff_gt.mpr gt, compare_gt_iff_gt.mpr (by gcongr)]
  · rw [compare_gt_iff_gt.mpr gt, compare_gt_iff_gt.mpr (value_lt_of_exponent_lt grid' grid gt)]
    rfl

/-- The order of `WithTop ℚ` extends the order of `ℚ`. -/
theorem compare_coe (x y : ℚ) : compare (x : WithTop ℚ) y = compare x y := by
  rcases lt_trichotomy x y with lt | rfl | gt
  · rw [compare_lt_iff_lt.mpr lt, compare_lt_iff_lt.mpr (WithTop.coe_lt_coe.mpr lt)]
  · rw [compare_eq_iff_eq.mpr rfl, compare_eq_iff_eq.mpr rfl]
  · rw [compare_gt_iff_gt.mpr gt, compare_gt_iff_gt.mpr (WithTop.coe_lt_coe.mpr gt)]

/-- A canonical form with a value is positive infinity, a zero, or positive and finite on
the grid. -/
theorem eq_of_value?_eq_some {u : UnpackedFloat} {a : WithTop ℚ} (canonical : Canonical u)
    (ha : value? u = some a) :
    (u = .infinity .positive ∧ a = ⊤) ∨ (∃ s, u = .zero s ∧ a = 0) ∨
      ∃ m e pos, u = .finite .positive m e pos ∧ OnGrid m e ∧ e ≤ 971 ∧
        a = ((m * 2 ^ e : ℚ) : WithTop ℚ) := by
  cases canonical with
  | notANumber => simp [value?] at ha
  | infinity s => cases s <;> simp_all [value?]
  | zero s => simp_all [value?]
  | @finite s m e pos grid fits => cases s <;> simp_all [value?]

/-- The model's comparison of two canonical forms that have values is the comparison of the
values. -/
theorem compare_eq_some {u w : UnpackedFloat} (hu : Canonical u) (hw : Canonical w)
    {a b : WithTop ℚ} (ha : value? u = some a) (hb : value? w = some b) :
    u.compare w = some (compare a b) := by
  rcases eq_of_value?_eq_some hu ha with ⟨rfl, rfl⟩ | ⟨s, rfl, rfl⟩ |
      ⟨m, e, pos, rfl, grid, -, rfl⟩ <;>
    rcases eq_of_value?_eq_some hw hb with ⟨rfl, rfl⟩ | ⟨s', rfl, rfl⟩ |
      ⟨m', e', pos', rfl, grid', -, rfl⟩
  · exact congrArg some (compare_eq_iff_eq.mpr rfl).symm
  · exact congrArg some (compare_gt_iff_gt.mpr (WithTop.coe_lt_top 0)).symm
  · exact congrArg some (compare_gt_iff_gt.mpr (WithTop.coe_lt_top _)).symm
  · exact congrArg some (compare_lt_iff_lt.mpr (WithTop.coe_lt_top 0)).symm
  · exact congrArg some (compare_eq_iff_eq.mpr rfl).symm
  · exact congrArg some (compare_lt_iff_lt.mpr (WithTop.coe_lt_coe.mpr (by positivity))).symm
  · exact congrArg some (compare_lt_iff_lt.mpr (WithTop.coe_lt_top _)).symm
  · exact congrArg some (compare_gt_iff_gt.mpr (WithTop.coe_lt_coe.mpr (by positivity))).symm
  · rw [compare_coe]
    exact congrArg some (compare_finite grid grid')

/-! ### Doubles -/

/-- The value of a double that is zero, positive or positive infinity. -/
def valueOf? (x : Float) : Option (WithTop ℚ) := value? x.toModel.unpack

/-- A double unpacks to a canonical form. -/
theorem canonical (x : Float) : Canonical x.toModel.unpack := canonical_unpack _

theorem lt_iff_compare (x y : Float) :
    x < y ↔ x.toModel.unpack.compare y.toModel.unpack = some .lt := by
  show Float.lt x y = true ↔ _
  simp only [Float.lt, decide_eq_true_eq]
  show (x.toModel.unpack.compare y.toModel.unpack == some .lt) = true ↔ _
  simp

theorem le_iff_compare (x y : Float) :
    x ≤ y ↔ (x.toModel.unpack.compare y.toModel.unpack).any (·.isLE) := by
  show Float.le x y = true ↔ _
  simp only [Float.le, decide_eq_true_eq]
  rfl

theorem beq_iff_compare (x y : Float) :
    (x == y) = true ↔ x.toModel.unpack.compare y.toModel.unpack = some .eq := by
  show (x.toModel.unpack.compare y.toModel.unpack == some .eq) = true ↔ _
  simp

section Valued

variable {x y : Float} {a b : WithTop ℚ}

/-- Of two doubles with values, one is below the other exactly when its value is. -/
theorem lt_iff (hx : valueOf? x = some a) (hy : valueOf? y = some b) : x < y ↔ a < b := by
  rw [lt_iff_compare, compare_eq_some (canonical x) (canonical y) hx hy, Option.some_inj,
    compare_lt_iff_lt]

theorem le_iff (hx : valueOf? x = some a) (hy : valueOf? y = some b) : x ≤ y ↔ a ≤ b := by
  rw [le_iff_compare, compare_eq_some (canonical x) (canonical y) hx hy, Option.any_some,
    Ordering.isLE_iff_ne_gt]
  exact compare_le_iff_le

theorem beq_iff (hx : valueOf? x = some a) (hy : valueOf? y = some b) :
    (x == y) = true ↔ a = b := by
  rw [beq_iff_compare, compare_eq_some (canonical x) (canonical y) hx hy, Option.some_inj,
    compare_eq_iff_eq]

/-- The exact order of two doubles with values is the order of their values. -/
theorem order_floats (hx : valueOf? x = some a) (hy : valueOf? y = some b) :
    Num.order (.float x) (.float y) = some (compare a b) := by
  simp only [Num.order]
  rcases lt_trichotomy a b with lt | rfl | gt
  · rw [if_pos ((lt_iff hx hy).mpr lt), compare_lt_iff_lt.mpr lt]
  · rw [if_neg (fun h => lt_irrefl a ((lt_iff hx hy).mp h)),
      if_neg (fun h => lt_irrefl a ((lt_iff hy hx).mp h)), if_pos ((beq_iff hx hy).mpr rfl),
      compare_eq_iff_eq.mpr rfl]
  · rw [if_neg (fun h => lt_asymm gt ((lt_iff hx hy).mp h)), if_pos ((lt_iff hy hx).mpr gt),
      compare_gt_iff_gt.mpr gt]

end Valued

end PublishPool.Double
