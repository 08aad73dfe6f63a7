import PublishPool.Number.Binary

/-!
Shortest decimal digits of a double.

The reals that round to a finite positive double `v = m · 2^q` form an interval
around it whose half-widths are `2^(q-1)` above and `2^(q-1)` below, or `2^(q-2)`
below when `m` is the least significand of its binade. Its ends belong to it exactly
when `m` is even. With `10^E ≤ v < 10^(E+1)`, for `k = 1, 2, …, 17` the decimal grid
of `k` significant digits has spacing `10^(E-k+1)`; the first grid on which one of
the two neighbours of `v` lies in the interval gives the digits, the nearer
neighbour when both do and the even one on an exact tie. Seventeen digits always
suffice. Everything is computed in exact natural-number arithmetic, in units of
`2^(q-2)`.
-/

namespace PublishPool.Number

/-- A decimal `digits · 10^exp` with no trailing zero in `digits` (unless zero). -/
structure Decimal where
  digits : Nat
  exp : Int
  deriving Repr, DecidableEq

/-- The rounding interval of `m · 2^q` in units of `2^(q-2)`: its centre `4m`, its
lower and upper ends, and whether the ends belong to it. -/
structure Interval where
  centre : Nat
  low : Nat
  high : Nat
  closed : Bool

/-- The rounding interval of the finite positive double `m · 2^q`. -/
def Interval.of (m : Nat) (q : Int) : Interval :=
  let lowGap := if m = Nat.pow 2 fractionBits ∧ q > -1074 then 1 else 2
  { centre := 4 * m, low := 4 * m - lowGap, high := 4 * m + 2, closed := m % 2 == 0 }

/-- Scale that turns a grid point `c · 10^e` into units of `2^(q-2)` after both
sides are multiplied by `2^max(2-q,0) · 10^max(-e,0)`: the grid unit becomes
`10^max(e,0) · 2^max(2-q,0)`. -/
def gridUnit (q e : Int) : Nat :=
  Nat.pow 10 e.toNat * Nat.pow 2 (2 - q).toNat

/-- The matching scale of a quantity given in units of `2^(q-2)`. -/
def unitScale (q e : Int) : Nat :=
  Nat.pow 2 (q - 2).toNat * Nat.pow 10 (-e).toNat

/-- Whether the grid point `c · 10^e` lies in the rounding interval. -/
def Interval.holds (iv : Interval) (q e : Int) (c : Nat) : Bool :=
  let p := c * gridUnit q e
  let s := unitScale q e
  if iv.closed then decide (iv.low * s ≤ p ∧ p ≤ iv.high * s)
  else decide (iv.low * s < p ∧ p < iv.high * s)

/-- `10^e ≤ m · 2^q`. -/
def powTenAtMost (m : Nat) (q e : Int) : Bool :=
  decide (gridUnit q e ≤ 4 * m * unitScale q e)

/-- The decimal exponent `E` with `10^E ≤ m · 2^q < 10^(E+1)`. The estimate
`⌊(log₂ m + q) · 1233 / 4096⌋` is within two of it; the largest candidate in that
window with `10^E ≤ v` is the answer. -/
def decimalExponent (m : Nat) (q : Int) : Int :=
  let guess : Int := ((m.log2 : Int) + q) * 1233 / 4096
  let window := [guess + 3, guess + 2, guess + 1, guess, guess - 1, guess - 2, guess - 3]
  (window.find? (powTenAtMost m q)).getD (guess - 3)

/-- Drops trailing zeros of the digits into the exponent. -/
def Decimal.normalize (digits : Nat) (exp : Int) : Decimal :=
  go digits exp (decimalWidth digits)
where
  /-- At most `fuel` zeros are dropped, and a number has fewer zeros than digits. -/
  go (digits : Nat) (exp : Int) : Nat → Decimal
    | 0 => ⟨digits, exp⟩
    | fuel + 1 =>
      if digits ≠ 0 ∧ digits % 10 = 0 then go (digits / 10) (exp + 1) fuel
      else ⟨digits, exp⟩

/-- The grid neighbour chosen on the grid `10^e`, if one lies in the interval: of
the two neighbours `c ≤ v < c + 1`, the nearer, or the even one on a tie. -/
def Interval.pick (iv : Interval) (q e : Int) : Option Nat :=
  let unit := gridUnit q e
  let v := iv.centre * unitScale q e
  let c := v / unit
  let lowIn := c ≠ 0 && iv.holds q e c
  let highIn := iv.holds q e (c + 1)
  if lowIn && highIn then
    let below := v - c * unit
    let above := (c + 1) * unit - v
    if below < above then some c
    else if above < below then some (c + 1)
    else if c % 2 = 0 then some c else some (c + 1)
  else if lowIn then some c
  else if highIn then some (c + 1)
  else none

/-- The shortest decimal that rounds to the finite positive double `m · 2^q`,
nearest to it among those of that length. -/
def shortest (m : Nat) (q : Int) : Decimal :=
  let iv := Interval.of m q
  let big := decimalExponent m q
  let grids : List Int := (List.range 17).map fun (k : Nat) => big - (k : Int)
  match grids.findSome? fun e => (iv.pick q e).map fun c => (c, e) with
  | some (c, e) => Decimal.normalize c e
  | none =>
    -- seventeen digits always hold a point of the interval
    Decimal.normalize (iv.centre * unitScale q (big - 16) / gridUnit q (big - 16)) (big - 16)

end PublishPool.Number
