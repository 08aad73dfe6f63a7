import PublishPool.Fault
import PublishPool.Number.Binary

/-!
Numbers that are integers or doubles.

Retry settings and timeouts keep the kind of number they were given: an integer
stays an exact integer of any size, a double stays a double. Arithmetic follows
the usual rules for such mixed numbers:

* comparisons are exact, also between an integer and a double, and every
  comparison with NaN is false;
* `max a b` is `a` unless `b > a`, and `min a b` is `a` unless `b < a`;
* sums, products and powers of integers are integers; otherwise an integer
  operand is first rounded to a double, which fails beyond the largest double;
* division always gives a double: two integers are divided exactly and rounded
  once, and a zero divisor fails;
* logarithms fail outside the positive numbers, and a power of doubles fails when
  it overflows.

The logarithm and the power of doubles themselves come from a maths library,
`MathLib`; the platform's, `MathLib.platform`, is the one programs use. Its last bits
are a fact about one library, not a rule of arithmetic, so everything here takes the
library as a parameter.
-/

namespace PublishPool

open PublishPool.Number

/-- The two functions of a maths library that numbers use beyond exact arithmetic:
the natural logarithm of a double and one double to the power of another. -/
structure MathLib where
  log : Float → Float
  pow : Float → Float → Float

/-- The platform's maths library. -/
def MathLib.platform : MathLib := ⟨Float.log, Float.pow⟩

/-- An integer or a double. -/
inductive Num where
  | int (n : Int)
  | float (x : Float)
  deriving Inhabited

namespace Num

/-- The value form of a number. -/
def toValue : Num → Value
  | .int n => .int n
  | .float x => .float x

/-- The literal text of a number. -/
def text (n : Num) : String := n.toValue.literal

/-- The double nearest to an integer, failing beyond the largest double. -/
def intToFloat (n : Int) : Except Fault Float :=
  let x := ofInt n
  if isFinite x then .ok x else .error Fault.intTooLarge

/-- A number as a double. -/
def toFloat : Num → Except Fault Float
  | .int n => intToFloat n
  | .float x => .ok x

/-- Exact order of an integer and a double; `none` when the double is NaN. -/
def compareIntFloat (n : Int) (x : Float) : Option Ordering :=
  match Binary.ofFloat x with
  | .nan => none
  | .inf neg => some (if neg then .gt else .lt)
  | .zero _ => some (compare n 0)
  | .finite neg m q =>
    let mag : Int := m
    let v := if neg then -mag else mag
    -- compare n with v · 2^q by clearing the power of two
    if 0 ≤ q then some (compare n (v * (Nat.pow 2 q.toNat : Nat)))
    else some (compare (n * (Nat.pow 2 (-q).toNat : Nat)) v)

/-- Exact order of two numbers; `none` when NaN takes part. -/
def order : Num → Num → Option Ordering
  | .int a, .int b => some (compare a b)
  | .int a, .float y => compareIntFloat a y
  | .float x, .int b => (compareIntFloat b x).map Ordering.swap
  | .float x, .float y =>
    if x < y then some .lt else if y < x then some .gt else if x == y then some .eq else none

/-- `a < b`. -/
def lt (a b : Num) : Bool := order a b == some .lt

/-- `a ≤ b`. -/
def le (a b : Num) : Bool := order a b == some .lt || order a b == some .eq

/-- `a` unless `b > a`. -/
def max (a b : Num) : Num := if lt a b then b else a

/-- `a` unless `b < a`. -/
def min (a b : Num) : Num := if lt b a then b else a

/-- The quotient as a double. Integers are divided exactly and rounded once. -/
def div : Num → Num → Except Fault Num
  | .int a, .int b =>
    if b = 0 then .error (Fault.divisionByZero false)
    else
      let q := roundRatio ((a < 0) != (b < 0)) a.natAbs b.natAbs
      if isFinite q then .ok (.float q) else .error Fault.quotientTooLarge
  | a, b => do
    let x ← toFloat a
    let y ← toFloat b
    if y == 0 then .error (Fault.divisionByZero true) else .ok (.float (x / y))

/-- The product. -/
def mul : Num → Num → Except Fault Num
  | .int a, .int b => .ok (.int (a * b))
  | a, b => do
    let x ← toFloat a
    let y ← toFloat b
    .ok (.float (x * y))

/-- The sum. -/
def add : Num → Num → Except Fault Num
  | .int a, .int b => .ok (.int (a + b))
  | a, b => do
    let x ← toFloat a
    let y ← toFloat b
    .ok (.float (x + y))

/-- The difference of two numbers. -/
def sub : Num → Num → Except Fault Num
  | .int a, .int b => .ok (.int (a - b))
  | a, b => do
    let x ← toFloat a
    let y ← toFloat b
    .ok (.float (x - y))

/-- The number a value stands for: integers, doubles, and flags as 0 and 1. -/
def ofValue? : Value → Option Num
  | .int n => some (.int n)
  | .bool b => some (.int (if b then 1 else 0))
  | .float x => some (.float x)
  | _ => none

/-- A binary operator on two values that stand for numbers; other operands fail
with a type error naming the operator and both kinds. -/
def onValues (op : String) (f : Num → Num → Except Fault Num) (a b : Value) : Except Fault Num :=
  match ofValue? a, ofValue? b with
  | some x, some y => f x y
  | _, _ => .error (Fault.operandTypes op a.typeName b.typeName)

/-- The difference of two values that stand for numbers. -/
def subValues (a b : Value) : Except Fault Num := onValues "-" sub a b

/-- The natural logarithm of a double: NaN stays NaN, positive infinity stays,
zero and negatives fail, and a positive double goes to the library. -/
def logFloat (lib : MathLib) (x : Float) : Except Fault Float :=
  match Binary.ofFloat x with
  | .nan => .ok x
  | .inf false => .ok x
  | .inf true => .error Fault.mathDomain
  | .zero _ => .error Fault.mathDomain
  | .finite true _ _ => .error Fault.mathDomain
  | .finite false _ _ => .ok (lib.log x)

/-- The natural logarithm. A positive integer beyond the largest double is split
as `m · 2^e` with `m` in `[1/2, 1)`, giving `log m + e · log 2`. -/
def log (lib : MathLib) : Num → Except Fault Float
  | .float x => logFloat lib x
  | .int n =>
    if n ≤ 0 then .error Fault.mathDomain
    else
      let x := ofInt n
      if isFinite x then .ok (lib.log x)
      else
        let e := n.natAbs.log2 + 1
        let m := roundRatio false n.natAbs (Nat.pow 2 e)
        .ok (lib.log m + lib.log 2 * ofInt e)

/-- The logarithm of `x` to base `b`, `log x / log b`; a base with logarithm zero
fails as a division by zero. -/
def logBase (lib : MathLib) (x b : Num) : Except Fault Float := do
  let num ← log lib x
  let den ← log lib b
  if den == 0 then .error (Fault.divisionByZero true) else .ok (num / den)

/-- A double to a natural power: a zero power is one, NaN, infinity and one are
kept, and otherwise the library's power is taken, failing when it overflows. -/
def powFloat (lib : MathLib) (x : Float) (e : Nat) : Except Fault Float :=
  if e = 0 then .ok 1
  else match Binary.ofFloat x with
    | .nan => .ok x
    | .inf _ => .ok x
    | _ =>
      if x == 1 then .ok 1
      else
        let r := lib.pow x (ofInt e)
        if isFinite r then .ok r else .error Fault.outOfRange

/-- A number to a natural power: exact for an integer base. -/
def pow (lib : MathLib) : Num → Nat → Except Fault Num
  | .int b, e => .ok (.int (Int.pow b e))
  | .float x, e => do
    -- the exponent is first made a double
    let _ ← intToFloat e
    (powFloat lib x e).map .float

/-- A number to a number's power, for a base above one: a natural exponent is
taken by `pow`; any other exponent makes both doubles, and the library's power
fails when it overflows. -/
def power (lib : MathLib) (b : Num) : Num → Except Fault Num
  | .int n => if 0 ≤ n then pow lib b n.toNat else powerByFloat b (ofInt n)
  | .float y => powerByFloat b y
where
  /-- The base to a double's power. -/
  powerByFloat (b : Num) (y : Float) : Except Fault Num := do
    let x ← toFloat b
    if y == 0 || x == 1 then return .float 1
    let r := lib.pow x y
    if isFinite r || !isFinite x || !isFinite y then return .float r
    .error Fault.outOfRange

end Num

end PublishPool
