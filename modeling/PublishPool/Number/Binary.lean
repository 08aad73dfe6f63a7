/-!
Doubles as exact binary numbers.

A finite nonzero double is `±m · 2^q` with `m < 2^53`. `Binary.ofFloat` reads those
parts off the bit pattern, and `roundRatio` goes the other way: it rounds an exact
quotient of naturals to the nearest double, a tie going to the even significand,
so every conversion of an exact number into a double in this library rounds once
and correctly. `ofDecimal` reads `m · 10^e` that way.
-/

namespace PublishPool.Number

/-- The parts of a double. A finite nonzero value is `m · 2^q`, negated when `neg`. -/
inductive Binary where
  | nan
  | inf (neg : Bool)
  | zero (neg : Bool)
  | finite (neg : Bool) (m : Nat) (q : Int)
  deriving Repr, DecidableEq

/-- Width of the stored fraction of a double. -/
def fractionBits : Nat := 52

/-- Reads sign, exponent field and fraction off the bit pattern. Subnormals have
exponent field zero and no hidden bit; the exponent bias is 1075 for the integer
significand. -/
def Binary.ofFloat (x : Float) : Binary :=
  let bits : Nat := x.toBits.toNat
  let neg := bits / Nat.pow 2 63 % 2 == 1
  let field : Nat := bits / Nat.pow 2 fractionBits % Nat.pow 2 11
  let frac : Nat := bits % Nat.pow 2 fractionBits
  if field = 2047 then
    if frac = 0 then .inf neg else .nan
  else if field = 0 then
    if frac = 0 then .zero neg else .finite neg frac (-1074)
  else
    .finite neg (frac + Nat.pow 2 fractionBits) ((field : Int) - 1075)

/-- The double with the given bit pattern as a natural number below `2^64`. -/
def ofBitsNat (bits : Nat) : Float :=
  Float.ofBits bits.toUInt64

/-- Positive infinity. -/
def posInf : Float := ofBitsNat (2047 * Nat.pow 2 fractionBits)

/-- The negation bit applied to a double built from a magnitude. -/
def withSign (neg : Bool) (bits : Nat) : Float :=
  ofBitsNat (if neg then bits + Nat.pow 2 63 else bits)

/-- `num / den ≥ 2^k`, decided by cross multiplication. -/
def ratioAtLeastPow (num den : Nat) (k : Int) : Bool :=
  decide (num * Nat.pow 2 (-k).toNat ≥ den * Nat.pow 2 k.toNat)

/-- `⌊num / den⌋` rounded half to even: the quotient, plus one when the remainder
is above half the divisor, or exactly half of it with an odd quotient. -/
def roundHalfEven (num den : Nat) : Nat :=
  let q := num / den
  let r := num % den
  if 2 * r > den ∨ (2 * r = den ∧ q % 2 = 1) then q + 1 else q

/-- Bit pattern of the double nearest to `num / den` (for `num, den > 0`), ties to
the even significand; values beyond the largest double give infinity. With
`2^k ≤ num / den < 2^(k+1)` the significand is `num / den · 2^(52 - k)` rounded, or
`num / den · 2^1074` in the subnormal range. A significand that rounds up to
`2^53` moves to the next binade. -/
def ratioBits (num den : Nat) : Nat :=
  let k0 : Int := (num.log2 : Int) - den.log2
  let k := if ratioAtLeastPow num den k0 then k0 else k0 - 1
  if k < -1022 then
    -- subnormal scale; a result of `2^52` is the smallest normal pattern
    roundHalfEven (num * Nat.pow 2 1074) den
  else
    let s : Int := 52 - k
    let m := roundHalfEven (num * Nat.pow 2 s.toNat) (den * Nat.pow 2 (-s).toNat)
    let (m, k) := if m = Nat.pow 2 53 then (Nat.pow 2 52, k + 1) else (m, k)
    if k > 1023 then 2047 * Nat.pow 2 fractionBits
    else (k + 1023).toNat * Nat.pow 2 fractionBits + (m - Nat.pow 2 fractionBits)

/-- The double nearest to `±num / den`; zero for a zero numerator. -/
def roundRatio (neg : Bool) (num den : Nat) : Float :=
  if num = 0 ∨ den = 0 then withSign neg 0 else withSign neg (ratioBits num den)

/-- Number of decimal digits of a positive natural (one for zero). -/
def decimalWidth (n : Nat) : Nat :=
  (Nat.toDigits 10 n).length

/-- The double nearest to `±m · 10^e`. Far outside the range of doubles the answer is
infinity or zero without building the huge power: `10^310` is above every double
and `10^-330` below half the least one. -/
def ofDecimal (neg : Bool) (m : Nat) (e : Int) : Float :=
  if m = 0 then withSign neg 0
  else if (decimalWidth m : Int) + e > 310 then withSign neg (2047 * Nat.pow 2 fractionBits)
  else if (decimalWidth m : Int) + e < -330 then withSign neg 0
  else if 0 ≤ e then roundRatio neg (m * Nat.pow 10 e.toNat) 1
  else roundRatio neg m (Nat.pow 10 (-e).toNat)

/-- The double nearest to an integer. -/
def ofInt (n : Int) : Float :=
  roundRatio (n < 0) n.natAbs 1

/-- Whether a double is neither infinite nor NaN. -/
def isFinite (x : Float) : Bool :=
  match Binary.ofFloat x with
  | .nan | .inf _ => false
  | _ => true

/-- The exact value of a finite double as a fraction `num / 2^den` with an integer
numerator; `none` for NaN and infinities. -/
def exactParts (x : Float) : Option (Int × Nat) :=
  match Binary.ofFloat x with
  | .nan | .inf _ => none
  | .zero _ => some (0, 0)
  | .finite neg m q =>
    let mag : Int := ((m * Nat.pow 2 q.toNat : Nat) : Int)
    let n : Int := if neg then -mag else mag
    some (n, (-q).toNat)

/-- A finite double that is a whole number, as that integer. -/
def toWhole? (x : Float) : Option Int :=
  match exactParts x with
  | some (n, d) => if n % (Nat.pow 2 d : Nat) = 0 then some (n / (Nat.pow 2 d : Nat)) else none
  | none => none

end PublishPool.Number
