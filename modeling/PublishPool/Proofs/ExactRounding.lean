import PublishPool.Proofs.NearestRounding

/-!
Ratios rounded with natural arithmetic.

`roundRatio` rounds `num / den` to a double without leaving the naturals: it finds the
binary exponent of the quotient by cross multiplication (`ratioExponent_eq`), scales the
quotient to 53 binary digits, or to the least exponent below the normal doubles, rounds
half to even by the remainder (`roundHalfEven_eq`) and writes the bits. The double it
writes is the quotient rounded once (`valueOf?_roundRatio`), so a natural number made a
double is the double nearest to it (`valueOf?_ofInt`).
-/

namespace PublishPool.Double

open Float.Model Float.Model.UnpackedFloat PublishPool.Number

/-! ### The bits the rounding writes -/

theorem toNat_bits {bits : ℕ} (small : bits < 2 ^ 64) : bits.toUInt64.toBitVec.toNat = bits := by
  rw [UInt64.toNat_toBitVec, Nat.toUInt64, UInt64.toNat_ofNat', Nat.mod_eq_of_lt small]

/-- A double given by its bits has the value of the bits unpacked. -/
theorem valueOf?_ofBitsNat (bits : ℕ) :
    valueOf? (ofBitsNat bits) = value? (unpack .binary64 bits.toUInt64.toBitVec) := by
  unfold valueOf?
  rw [show (ofBitsNat bits).toModel.unpack =
      unpack .binary64 (pack .binary64 (unpack .binary64 bits.toUInt64.toBitVec)) from rfl,
    unpack_pack (canonical_unpack _)]

/-- Below `2^63` the sign bit is clear. -/
theorem sign_positive {b : BitVec 64} (small : b.toNat < 2 ^ 63) :
    Sign.ofBitVec (@unpackSign .binary64 b) = .positive := by
  have clear := ofBitVec_unpackSign_negative b
  rw [show b.toNat / 2 ^ 63 % 2 = 0 by omega] at clear
  cases sign : Sign.ofBitVec (@unpackSign .binary64 b) with
  | positive => rfl
  | negative =>
    rw [sign] at clear
    cases clear

/-- The bits of a normal double: exponent field `field`, fraction `frac`. -/
theorem valueOf?_normalBits {field frac : ℕ} (lo : 1 ≤ field) (hi : field ≤ 2046)
    (short : frac < 2 ^ 52) :
    valueOf? (ofBitsNat (field * 2 ^ 52 + frac)) =
      some ((((frac + 2 ^ 52 : ℕ) : ℚ) * 2 ^ ((field : ℤ) - 1075) : ℚ) : WithTop ℚ) := by
  have bits := toNat_bits (show field * 2 ^ 52 + frac < 2 ^ 64 by omega)
  rw [valueOf?_ofBitsNat, unpack_eq]
  simp only [bits, sign_positive (bits ▸ (by omega : field * 2 ^ 52 + frac < 2 ^ 63))]
  rw [if_neg (by omega), if_neg (by omega)]
  simp only [value?, show (field * 2 ^ 52 + frac) % 2 ^ 52 = frac by omega,
    show (field * 2 ^ 52 + frac) / 2 ^ 52 % 2 ^ 11 = field by omega]

/-- The bits of a subnormal double, or of zero: the fraction at the least exponent. -/
theorem valueOf?_subnormalBits {frac : ℕ} (short : frac < 2 ^ 52) :
    valueOf? (ofBitsNat frac) = some (((frac : ℚ) * 2 ^ (-1074 : ℤ) : ℚ) : WithTop ℚ) := by
  have bits := toNat_bits (show frac < 2 ^ 64 by omega)
  rw [valueOf?_ofBitsNat, unpack_eq]
  simp only [bits, sign_positive (bits ▸ (by omega : frac < 2 ^ 63))]
  rw [if_neg (by omega), if_pos (by omega)]
  by_cases zero : frac = 0
  · subst zero
    simp [value?]
  · rw [dif_neg (by omega)]
    simp only [value?, Nat.mod_eq_of_lt short]

/-- The bits of positive infinity. -/
theorem valueOf?_infinityBits : valueOf? (ofBitsNat (2047 * 2 ^ 52)) = some ⊤ := by
  have bits := toNat_bits (show 2047 * 2 ^ 52 < 2 ^ 64 by norm_num)
  rw [valueOf?_ofBitsNat, unpack_eq]
  simp only [bits, sign_positive (bits ▸ (by norm_num : 2047 * 2 ^ 52 < 2 ^ 63))]
  simp [value?]

/-- The bits of a normal double with mantissa `m` at exponent `k - 52`, or of infinity past
the largest exponent: the value on the grid, infinity from `2^1024` on. -/
theorem valueOf?_packedBits {m : ℕ} {k : ℤ} (normal : 2 ^ 52 ≤ m) (short : m < 2 ^ 53)
    (least : -1022 ≤ k) :
    valueOf? (ofBitsNat
        (if k > 1023 then 2047 * 2 ^ 52 else (k + 1023).toNat * 2 ^ 52 + (m - 2 ^ 52))) =
      some (if 2 ^ 1024 ≤ (m * 2 ^ (k - 52) : ℚ) then ⊤
        else ((m * 2 ^ (k - 52) : ℚ) : WithTop ℚ)) := by
  have grid : OnGrid m (k - 52) := ⟨short, by omega, .inl normal⟩
  split_ifs with beyond fits fits
  · exact valueOf?_infinityBits
  · exact absurd (le_grid grid (by omega)) fits
  · exact absurd fits (not_le.mpr (grid_lt grid (by omega)))
  · rw [valueOf?_normalBits (by omega) (by omega) (by omega), Nat.sub_add_cancel normal]
    rw [show ((k + 1023).toNat : ℤ) - 1075 = k - 52 by omega]


/-! ### The natural steps -/

/-- Halving the remainder against the divisor rounds the quotient half to even. -/
theorem roundHalfEven_eq {num den : ℕ} (pos : 0 < den) :
    (roundHalfEven num den : ℤ) = roundEven (num / den) := by
  have floor : ⌊(num : ℚ) / den⌋ = ((num / den : ℕ) : ℤ) := by
    rw [← Nat.floor_div_eq_div (K := ℚ)]
    exact (Int.natCast_floor_eq_floor (by positivity)).symm
  have split : (num : ℚ) = den * (num / den : ℕ) + (num % den : ℕ) := by
    exact_mod_cast (Nat.div_add_mod num den).symm
  have frac : (num : ℚ) / den - ((num / den : ℕ) : ℚ) = ((num % den : ℕ) : ℚ) / den := by
    rw [eq_div_iff (by positivity), sub_mul, div_mul_cancel₀ _ (by positivity), split]
    ring
  -- the remainder decides against half the divisor
  have below : ((num % den : ℕ) : ℚ) / den < 1 / 2 ↔ 2 * (num % den) < den := by
    rw [div_lt_iff₀ (by positivity)]
    constructor
    · intro h
      have : ((2 * (num % den) : ℕ) : ℚ) < den := by push_cast; linarith
      exact_mod_cast this
    · intro h
      have : ((2 * (num % den) : ℕ) : ℚ) < den := by exact_mod_cast h
      push_cast at this
      linarith
  have above : 1 / 2 < ((num % den : ℕ) : ℚ) / den ↔ den < 2 * (num % den) := by
    rw [lt_div_iff₀ (by positivity)]
    constructor
    · intro h
      have : (den : ℚ) < ((2 * (num % den) : ℕ) : ℚ) := by push_cast; linarith
      exact_mod_cast this
    · intro h
      have : (den : ℚ) < ((2 * (num % den) : ℕ) : ℚ) := by exact_mod_cast h
      push_cast at this
      linarith
  unfold roundHalfEven roundEven
  simp only [floor, Int.cast_natCast, frac, below, above]
  split_ifs <;> omega

/-- Cross multiplication decides whether the quotient is at least `2^k`. -/
theorem ratioAtLeastPow_iff {num den : ℕ} (pos : 0 < den) (k : ℤ) :
    ratioAtLeastPow num den k = true ↔ (2 : ℚ) ^ k ≤ num / den := by
  unfold ratioAtLeastPow
  rw [decide_eq_true_iff, ge_iff_le, le_div_iff₀ (by positivity), Nat.pow_eq, Nat.pow_eq]
  rcases le_or_gt 0 k with nonneg | neg
  · obtain ⟨j, rfl⟩ := Int.eq_ofNat_of_zero_le nonneg
    simp only [Int.toNat_natCast, show (-(j : ℤ)).toNat = 0 by omega, pow_zero, mul_one,
      zpow_natCast]
    rw [mul_comm]
    exact_mod_cast Iff.rfl
  · obtain ⟨j, rfl⟩ : ∃ j : ℕ, k = -j := ⟨(-k).toNat, by omega⟩
    simp only [neg_neg, Int.toNat_natCast, show (-(j : ℤ)).toNat = 0 by omega, pow_zero,
      mul_one, zpow_neg, zpow_natCast]
    rw [inv_mul_le_iff₀ (by positivity)]
    norm_cast
    rw [Nat.mul_comm num]

/-- Scaling numerator or denominator by a power of two scales the quotient. -/
theorem scaled_ratio (num den : ℕ) (s : ℤ) :
    ((num * 2 ^ s.toNat : ℕ) : ℚ) / ((den * 2 ^ (-s).toNat : ℕ) : ℚ) =
      num / den * 2 ^ s := by
  rcases le_or_gt 0 s with nonneg | neg
  · obtain ⟨j, rfl⟩ := Int.eq_ofNat_of_zero_le nonneg
    simp only [Int.toNat_natCast, show (-(j : ℤ)).toNat = 0 by omega, pow_zero, mul_one,
      zpow_natCast]
    push_cast
    ring
  · obtain ⟨j, rfl⟩ : ∃ j : ℕ, s = -j := ⟨(-s).toNat, by omega⟩
    simp only [neg_neg, Int.toNat_natCast, show (-(j : ℤ)).toNat = 0 by omega, pow_zero,
      mul_one, zpow_neg, zpow_natCast]
    push_cast
    field_simp

/-- The exponent the rounding settles on is the binary logarithm of the quotient: the
difference of the logarithms of numerator and denominator, or one less. -/
theorem ratioExponent_eq {num den : ℕ} (npos : 0 < num) (dpos : 0 < den) :
    (if ratioAtLeastPow num den ((num.log2 : ℤ) - den.log2) = true
      then (num.log2 : ℤ) - den.log2 else (num.log2 : ℤ) - den.log2 - 1) =
      Int.log 2 ((num : ℚ) / den) := by
  have numLo : (2 : ℚ) ^ (num.log2 : ℤ) ≤ num := by
    rw [zpow_natCast]; exact_mod_cast Nat.log2_self_le npos.ne'
  have numHi : (num : ℚ) < 2 ^ ((num.log2 : ℤ) + 1) := by
    rw [← Nat.cast_one, ← Nat.cast_add, zpow_natCast]; exact_mod_cast Nat.lt_log2_self
  have denLo : (2 : ℚ) ^ (den.log2 : ℤ) ≤ den := by
    rw [zpow_natCast]; exact_mod_cast Nat.log2_self_le dpos.ne'
  have denHi : (den : ℚ) < 2 ^ ((den.log2 : ℤ) + 1) := by
    rw [← Nat.cast_one, ← Nat.cast_add, zpow_natCast]; exact_mod_cast Nat.lt_log2_self
  have dpos' : (0 : ℚ) < den := by exact_mod_cast dpos
  -- the quotient lies within a factor two of `2^(log2 num - log2 den)`
  have above : (2 : ℚ) ^ ((num.log2 : ℤ) - den.log2 - 1) ≤ num / den := by
    rw [le_div_iff₀ dpos']
    calc (2 : ℚ) ^ ((num.log2 : ℤ) - den.log2 - 1) * den
        ≤ 2 ^ ((num.log2 : ℤ) - den.log2 - 1) * 2 ^ ((den.log2 : ℤ) + 1) := by gcongr
      _ = 2 ^ (num.log2 : ℤ) := by rw [← zpow_add₀ two_ne_zero]; ring_nf
      _ ≤ num := numLo
  have below : (num : ℚ) / den < 2 ^ ((num.log2 : ℤ) - den.log2 + 1) := by
    rw [div_lt_iff₀ dpos']
    calc (num : ℚ) < 2 ^ ((num.log2 : ℤ) + 1) := numHi
      _ = 2 ^ ((num.log2 : ℤ) - den.log2 + 1) * 2 ^ (den.log2 : ℤ) := by
          rw [← zpow_add₀ two_ne_zero]; ring_nf
      _ ≤ 2 ^ ((num.log2 : ℤ) - den.log2 + 1) * den := by gcongr
  split_ifs with reached
  · exact (log_eq_of_bounds ((ratioAtLeastPow_iff dpos _).mp reached) below).symm
  · have short : (num : ℚ) / den < 2 ^ ((num.log2 : ℤ) - den.log2) :=
      not_le.mp fun h => reached ((ratioAtLeastPow_iff dpos _).mpr h)
    exact (log_eq_of_bounds above (by simpa using short)).symm

/-! ### Rounded ratios -/

/-- Below the normal doubles the quotient is scaled to the least exponent and rounded: the
bits of a subnormal double, or of the least normal one when it rounds up to it. -/
theorem valueOf?_subnormalRatio {num den : ℕ} (npos : 0 < num) (dpos : 0 < den)
    (subnormal : Int.log 2 ((num : ℚ) / den) < -1022) :
    valueOf? (ofBitsNat (roundHalfEven (num * 2 ^ 1074) den)) =
      some (if 2 ^ 1024 ≤ nearest (num / den) then ⊤
        else (nearest (num / den) : WithTop ℚ)) := by
  set v : ℚ := (num : ℚ) / den with hv
  have vpos : 0 < v := by positivity
  have hi : v < 2 ^ (Int.log 2 v + 1) := by
    exact_mod_cast Int.lt_zpow_succ_log_self (b := 2) (by norm_num) v
  have place : lastPlace v = -1074 := by
    unfold lastPlace
    omega
  set m := roundHalfEven (num * 2 ^ 1074) den with hm
  have rounded : (m : ℤ) = roundEven (v / 2 ^ (-1074 : ℤ)) := by
    rw [hm, roundHalfEven_eq dpos, hv, zpow_neg, div_inv_eq_mul,
      show (2 : ℚ) ^ (1074 : ℤ) = 2 ^ (1074 : ℕ) from zpow_natCast 2 1074, Nat.cast_mul,
      Nat.cast_pow, Nat.cast_ofNat, mul_div_right_comm]
  have nearestEq : nearest v = m * 2 ^ (-1074 : ℤ) := by
    unfold nearest
    rw [place, ← rounded, Int.cast_natCast]
  -- below `2^-1022` the scaled quotient is below `2^52`
  have bound : m ≤ 2 ^ 52 := by
    have scaled : v / 2 ^ (-1074 : ℤ) ≤ ((2 ^ 52 : ℤ) : ℚ) := by
      rw [div_le_iff₀ (zpow_pos two_pos _)]
      calc v ≤ 2 ^ (Int.log 2 v + 1) := hi.le
        _ ≤ 2 ^ (-1022 : ℤ) := zpow_le_zpow_right₀ one_le_two (by omega)
        _ = ((2 ^ 52 : ℤ) : ℚ) * 2 ^ (-1074 : ℤ) := by
            rw [show ((2 ^ 52 : ℤ) : ℚ) = (2 : ℚ) ^ (52 : ℤ) by norm_num,
              ← zpow_add₀ two_ne_zero]
            norm_num
    have := roundEven_le_of_le scaled
    omega
  have small : nearest v < 2 ^ 1024 := by
    rw [nearestEq]
    calc (m : ℚ) * 2 ^ (-1074 : ℤ) ≤ (2 : ℚ) ^ (52 : ℤ) * 2 ^ (-1074 : ℤ) := by
          gcongr
          exact_mod_cast bound
      _ = 2 ^ (-1022 : ℤ) := by rw [← zpow_add₀ two_ne_zero]; norm_num
      _ < 2 ^ (1024 : ℤ) := zpow_lt_zpow_right₀ one_lt_two (by norm_num)
      _ = 2 ^ 1024 := zpow_natCast 2 1024
  rw [if_neg (not_le.mpr small), nearestEq]
  rcases bound.lt_or_eq with below | top
  · exact valueOf?_subnormalBits below
  · -- rounding up reaches the least normal double
    rw [top, show (2 : ℕ) ^ 52 = 1 * 2 ^ 52 + 0 by norm_num,
      valueOf?_normalBits le_rfl (by norm_num) (by norm_num)]
    norm_num

/-- The bits written for a positive ratio are those of the quotient rounded once. -/
theorem valueOf?_ratioBits {num den : ℕ} (npos : 0 < num) (dpos : 0 < den) :
    valueOf? (ofBitsNat (ratioBits num den)) =
      some (roundToDouble (((num : ℚ) / den : ℚ) : WithTop ℚ)) := by
  unfold ratioBits
  simp only [Nat.pow_eq, fractionBits, -Nat.reducePow]
  rw [ratioExponent_eq npos dpos, roundToDouble_coe]
  by_cases subnormal : Int.log 2 ((num : ℚ) / den) < -1022
  · rw [if_pos subnormal]
    exact valueOf?_subnormalRatio npos dpos subnormal
  rw [if_neg subnormal]
  set v : ℚ := (num : ℚ) / den with hv
  have vpos : 0 < v := by positivity
  set k := Int.log 2 v with hk
  have lo : (2 : ℚ) ^ k ≤ v := by
    exact_mod_cast Int.zpow_log_le_self (b := 2) (by norm_num) vpos
  have place : lastPlace v = k - 52 := by
    unfold lastPlace
    omega
  set m := roundHalfEven (num * 2 ^ (52 - k).toNat) (den * 2 ^ (-(52 - k)).toNat) with hm
  have rounded : (m : ℤ) = roundEven (v / 2 ^ (k - 52)) := by
    rw [hm, roundHalfEven_eq (by positivity), scaled_ratio, ← hv, div_eq_mul_inv, ← zpow_neg,
      neg_sub]
  have nearestEq : nearest v = m * 2 ^ (k - 52) := by
    unfold nearest
    rw [place, ← rounded, Int.cast_natCast]
  -- from `2^k` on the scaled quotient has all 53 binary digits
  have scaledLo : ((2 ^ 52 : ℤ) : ℚ) ≤ v / 2 ^ (k - 52) := by
    rw [le_div_iff₀ (zpow_pos two_pos _)]
    calc ((2 ^ 52 : ℤ) : ℚ) * 2 ^ (k - 52) = 2 ^ k := by
          rw [show k = 52 + (k - 52) by ring, zpow_add₀ two_ne_zero]; norm_num
      _ ≤ v := lo
  have scaledHi : v / 2 ^ (k - 52) ≤ ((2 ^ 53 : ℤ) : ℚ) := place ▸ div_lastPlace_le v
  have lower : 2 ^ 52 ≤ m := by
    have := le_roundEven_of_le scaledLo
    omega
  have upper : m ≤ 2 ^ 53 := by
    have := roundEven_le_of_le scaledHi
    omega
  rw [nearestEq]
  by_cases carry : m = 2 ^ 53
  · -- a mantissa that rounds up to `2^53` moves to the next binade
    rw [if_pos carry]
    dsimp only
    rw [valueOf?_packedBits le_rfl (by norm_num) (by omega), carry]
    have same :
        ((2 ^ 52 : ℕ) : ℚ) * 2 ^ (k + 1 - 52) = ((2 ^ 53 : ℕ) : ℚ) * 2 ^ (k - 52) := by
      rw [show k + 1 - 52 = 1 + (k - 52) by ring, zpow_add₀ two_ne_zero]
      norm_num
      ring
    rw [same]
  · rw [if_neg carry]
    exact valueOf?_packedBits lower (by omega) (by omega)

/-- Rounding a positive ratio gives the double nearest to it. -/
theorem valueOf?_roundRatio {num den : ℕ} (npos : 0 < num) (dpos : 0 < den) :
    valueOf? (roundRatio false num den) =
      some (roundToDouble (((num : ℚ) / den : ℚ) : WithTop ℚ)) := by
  unfold roundRatio withSign
  rw [if_neg (by omega), if_neg Bool.false_ne_true]
  exact valueOf?_ratioBits npos dpos

/-- A zero numerator gives zero. -/
theorem valueOf?_roundRatio_zero (den : ℕ) : valueOf? (roundRatio false 0 den) = some 0 := by
  have zero := @valueOf?_subnormalBits 0 (by norm_num)
  simp only [Nat.cast_zero, zero_mul] at zero
  simpa [roundRatio, withSign] using zero

@[simp] theorem roundToDouble_zero : roundToDouble 0 = 0 := by
  rw [← WithTop.coe_zero, roundToDouble_coe, nearest_zero, if_neg (not_le.mpr (by positivity))]

/-- A natural number as a double is the double nearest to it. -/
theorem valueOf?_ofInt (n : ℕ) :
    valueOf? (Number.ofInt n) = some (roundToDouble ((n : ℚ) : WithTop ℚ)) := by
  unfold Number.ofInt
  rw [Int.natAbs_natCast, decide_eq_false (by omega)]
  rcases Nat.eq_zero_or_pos n with rfl | pos
  · rw [valueOf?_roundRatio_zero, Nat.cast_zero, WithTop.coe_zero, roundToDouble_zero]
  · rw [valueOf?_roundRatio pos one_pos, Nat.cast_one, div_one]

end PublishPool.Double
