import PublishPool.Number.Shortest

/-!
Writing a double from its shortest digits.

A `Notation` holds the decisions a format makes once the digits are known: which
decimal exponents are written positionally, how an exponent is marked, signed and
padded, whether a whole number keeps a `.0`, and the words for NaN and infinity.
`Notation.render` applies them to the digits of `shortest`.
-/

namespace PublishPool.Number

/-- The layout decisions of one way of writing doubles. -/
structure Notation where
  /-- Least decimal exponent written positionally. -/
  positionalFrom : Int
  /-- Decimal exponents from here on use exponent notation. -/
  positionalBelow : Int
  /-- Whether a positive exponent gets a `+`. -/
  plusSign : Bool
  /-- Least number of exponent digits, padded with zeros. -/
  exponentWidth : Nat
  /-- The word for NaN. -/
  nanText : String
  /-- The word for positive infinity (negative adds a minus). -/
  infText : String

/-- `n` zeros. -/
def zeros (n : Nat) : String :=
  String.ofList (List.replicate n '0')

/-- The decimal digits of a natural number. -/
def digitText (n : Nat) : String :=
  String.ofList (Nat.toDigits 10 n)

/-- The digits `ds` of a positive decimal whose leading digit stands at `10^x`,
written positionally: a whole number keeps `.0`, a fraction below one starts
`0.` and leading zeros. -/
def positional (ds : List Char) (x : Int) : String :=
  if x < 0 then
    "0." ++ zeros ((-x).toNat - 1) ++ String.ofList ds
  else
    let whole := x.toNat + 1
    if ds.length ≤ whole then
      String.ofList ds ++ zeros (whole - ds.length) ++ ".0"
    else
      String.ofList (ds.take whole) ++ "." ++ String.ofList (ds.drop whole)

/-- The digits `ds` with the leading digit at `10^x`, written with an exponent. -/
def Notation.scientific (n : Notation) (ds : List Char) (x : Int) : String :=
  let mantissa := match ds with
    | [] => "0"
    | [d] => String.ofList [d]
    | d :: rest => String.ofList (d :: '.' :: rest)
  let mag := digitText x.natAbs
  let sign := if x < 0 then "-" else if n.plusSign then "+" else ""
  mantissa ++ "e" ++ sign ++ zeros (n.exponentWidth - mag.length) ++ mag

/-- Writes a double in this notation from its shortest digits. -/
def Notation.render (n : Notation) (x : Float) : String :=
  match Binary.ofFloat x with
  | .nan => n.nanText
  | .inf neg => (if neg then "-" else "") ++ n.infText
  | .zero neg => if neg then "-0.0" else "0.0"
  | .finite neg m q =>
    let d := shortest m q
    let ds := Nat.toDigits 10 d.digits
    let x := d.exp + ds.length - 1
    let body :=
      if n.positionalFrom ≤ x ∧ x < n.positionalBelow then positional ds x
      else n.scientific ds x
    (if neg then "-" else "") ++ body

end PublishPool.Number
