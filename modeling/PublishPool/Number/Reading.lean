import PublishPool.Number.Binary

/-!
Reading numbers from text.

`readInt?` reads an optional sign and decimal digits, of any length.
`readFloat?` reads an optional sign and either a decimal numeral (digits with an
optional point, at least one digit in all, and an optional exponent `e`/`E` with
its own optional sign) or one of the words `inf`, `infinity`, `nan` in any case;
the numeral is rounded once to the nearest double by `ofDecimal`. Neither reader
skips blanks: callers trim first.
-/

namespace PublishPool.Number

/-- Most digits an integer text may have: longer texts are refused as too costly to
convert. -/
def maxIntDigits : Nat := 4300

/-- Splits off the leading ASCII digits. -/
def spanDigits (cs : List Char) : List Char × List Char :=
  (cs.takeWhile Char.isDigit, cs.dropWhile Char.isDigit)

/-- The value of a list of ASCII digits. -/
def digitsValue (ds : List Char) : Nat :=
  ds.foldl (fun acc d => 10 * acc + (d.toNat - '0'.toNat)) 0

/-- Splits off an optional sign: whether it is a minus, and the rest. -/
def takeSign (cs : List Char) : Bool × List Char :=
  match cs with
  | '-' :: rest => (true, rest)
  | '+' :: rest => (false, rest)
  | _ => (false, cs)

/-- An optional sign followed by one or more decimal digits and nothing else. -/
def readInt? (s : String) : Option Int :=
  let (neg, rest) := takeSign s.toList
  if rest.isEmpty || !rest.all Char.isDigit then none
  else
    let n : Int := digitsValue rest
    some (if neg then -n else n)

/-- A decimal numeral without sign: digits, an optional point with digits, an
optional exponent. Gives the digits as one integer `m` and the exponent `e` of
`m · 10^e`, or `none` when no digit is present or text is left over. -/
def readUnsignedDecimal? (cs : List Char) : Option (Nat × Int) :=
  let (whole, rest) := spanDigits cs
  let (frac, rest) := match rest with
    | '.' :: more => spanDigits more
    | _ => ([], rest)
  if whole.isEmpty && frac.isEmpty then none
  else
    let m := digitsValue (whole ++ frac)
    match rest with
    | [] => some (m, -(frac.length : Int))
    | c :: more =>
      if c == 'e' || c == 'E' then
        let (eneg, edigits) := takeSign more
        if edigits.isEmpty || !edigits.all Char.isDigit then none
        else
          let e : Int := digitsValue edigits
          some (m, (if eneg then -e else e) - frac.length)
      else none

/-- A signed decimal numeral or one of the words for infinity and NaN, as the
nearest double. -/
def readFloat? (s : String) : Option Float :=
  let (neg, rest) := takeSign s.toList
  let word := String.ofList (rest.map Char.toLower)
  if word == "inf" || word == "infinity" then some (withSign neg (2047 * Nat.pow 2 fractionBits))
  else if word == "nan" then some (withSign neg (2047 * Nat.pow 2 fractionBits + Nat.pow 2 51))
  else (readUnsignedDecimal? rest).map fun (m, e) => ofDecimal neg m e

end PublishPool.Number
