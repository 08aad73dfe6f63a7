import PublishPool.Num

/-!
Equality and order of loosely typed values.

Retry policies and their attempt counts arrive as values of any kind, and the
policy compares them as a dynamically typed language does.

`Value.equals` is equality. Numbers of any kind (integers, doubles, and flags as 0
and 1) are equal when their values are, and NaN is equal to nothing. Texts, byte
strings and lists are equal when their parts are, in order; mappings are equal when
they have the same keys with equal values, in any order. Values of other different
kinds are never equal, and equality never fails.

`Value.compare c a b` is one of the four order tests. Numbers compare by value, and
every test with NaN is false. Texts compare by code points and byte strings by
bytes, lexicographically. Lists compare at their first pair of unequal items, by
the same test on that pair, and by length when one list is a prefix of the other.
Any other pair has no order: the test fails with a type error that names the
operator and both kinds.

`Value.contains` is membership, for mappings (keys), lists (items) and texts
(contiguous parts).
-/

namespace PublishPool

/-- The four order tests. -/
inductive Comparison where
  | lt
  | le
  | gt
  | ge
  deriving DecidableEq, Repr

namespace Comparison

/-- The operator's symbol, as type errors print it. -/
def symbol : Comparison → String
  | .lt => "<"
  | .le => "<="
  | .gt => ">"
  | .ge => ">="

/-- Whether the test holds for two operands in the given order. -/
def holds : Comparison → Ordering → Bool
  | .lt, o => o == .lt
  | .le, o => o != .gt
  | .gt, o => o == .gt
  | .ge, o => o != .lt

end Comparison

namespace Value

/-- Lexicographic order of code sequences, a proper prefix first. -/
def lexOrder : List Nat → List Nat → Ordering
  | [], [] => .eq
  | [], _ :: _ => .lt
  | _ :: _, [] => .gt
  | a :: as, b :: bs =>
    if a < b then .lt else if b < a then .gt else lexOrder as bs

/-- The order of two lengths. -/
def lengthOrder (m n : Nat) : Ordering :=
  if m < n then .lt else if n < m then .gt else .eq

/-- The code points of a text. -/
def codes (s : String) : List Nat := Text.points s

mutual
/-- Equality of values. -/
def equals : Value → Value → Bool
  | .none, .none => true
  | .str a, .str b => a == b
  | .bytes a, .bytes b => a == b
  | .list xs, .list ys => equalsItems xs ys
  | .dict es, .dict fs => es.length == fs.length && equalsEntries es fs
  | a, b =>
    match Num.ofValue? a, Num.ofValue? b with
    | some x, some y => Num.order x y == some .eq
    | _, _ => false

/-- Equality of lists, item by item. -/
def equalsItems : List Value → List Value → Bool
  | [], [] => true
  | x :: xs, y :: ys => equals x y && equalsItems xs ys
  | _, _ => false

/-- Whether every entry has an equal value under its key in the other mapping. -/
def equalsEntries : List (String × Value) → List (String × Value) → Bool
  | [], _ => true
  | (k, v) :: rest, fs =>
    (match lookup fs k with
      | some w => equals v w
      | Option.none => false) && equalsEntries rest fs
end

mutual
/-- An order test on two values. -/
def compare (c : Comparison) : Value → Value → Except Fault Bool
  | .list xs, .list ys => compareItems c xs ys
  | .str a, .str b => .ok (c.holds (lexOrder (codes a) (codes b)))
  | .bytes a, .bytes b => .ok (c.holds (lexOrder (a.map UInt8.toNat) (b.map UInt8.toNat)))
  | a, b =>
    match Num.ofValue? a, Num.ofValue? b with
    | some x, some y => .ok (match Num.order x y with
      | some o => c.holds o
      | Option.none => false)
    | _, _ => .error (Fault.notOrderable c.symbol a.typeName b.typeName)

/-- An order test on two lists: at their first unequal items, else by length. -/
def compareItems (c : Comparison) : List Value → List Value → Except Fault Bool
  | x :: xs, y :: ys => if equals x y then compareItems c xs ys else compare c x y
  | xs, ys => .ok (c.holds (lengthOrder xs.length ys.length))
end

/-- Whether a sequence of code points occurs in another as a contiguous part. -/
def infixOf (part : List Nat) : List Nat → Bool
  | [] => part.isEmpty
  | c :: rest => part.isPrefixOf (c :: rest) || infixOf part rest

/-- Membership of a value in a container: a key of a mapping, an item of a list
equal to it, a part of a text. A mapping refuses a value that cannot be a key, a
text refuses anything but text, and other values are not containers. -/
def contains (container x : Value) : Except Fault Bool :=
  match container, x with
  | .dict es, .str k => .ok (es.any (·.1 == k))
  | .dict _, .list _ | .dict _, .dict _ =>
    .error (.raised .typeMismatch ("unhashable type: '" ++ x.typeName ++ "'"))
  | .dict _, _ => .ok false
  | .list items, _ => .ok (items.any (equals x))
  | .str s, .str p => .ok (infixOf (codes p) (codes s))
  | .str _, _ => .error (.raised .typeMismatch
      ("'in <string>' requires string as left operand, not " ++ x.typeName))
  | .bytes _, .str _ => .error (.raised .typeMismatch "a bytes-like object is required, not 'str'")
  | c, _ => .error (.raised .typeMismatch ("argument of type '" ++ c.typeName ++ "' is not iterable"))

/-- The larger of two values: the first unless the second is greater. -/
def maximum (a b : Value) : Except Fault Value := do
  if ← compare .gt b a then pure b else pure a

/-- The smaller of two values: the first unless the second is less. -/
def minimum (a b : Value) : Except Fault Value := do
  if ← compare .lt b a then pure b else pure a

end Value

end PublishPool
