import PublishPool.Value
import PublishPool.Value.Literal

/-!
Writing values as compact JSON.

Objects and arrays are written without blanks, in entry order. Texts are quoted
with `"`; the quote, the backslash and the control characters below U+0020 are
escaped (`\b \t \n \f \r` by name, the others as `\u00XX`), a lone surrogate is
written as its `\uXXXX` escape, and every other code point as itself. Integers are written in full and finite doubles in
`Json.floatNotation`.

JSON has no byte strings and no NaN or infinities. A `Json.Style` says how to
write those: `Json.document` writes them as one-key objects that `Json.parse`
reads back (`{"$bytes": hex}` and `{"$float": "inf"}`), `Json.lenient` writes
non-finite doubles as bare words, and payload encoding (`Json.payload`) writes
them as `null` after refusing byte strings.
-/

namespace PublishPool.Json

open PublishPool.Number

/-- Finite doubles in JSON: shortest digits, positional for decimal exponents from
-5 to 15, otherwise `e`, a sign and the exponent's digits without padding. -/
def floatNotation : Notation :=
  { positionalFrom := -5, positionalBelow := 16, plusSign := true, exponentWidth := 1,
    nanText := "null", infText := "null" }

/-- How values without a JSON form are written. -/
structure Style where
  /-- Text of NaN and the infinities. -/
  nonFinite : Float → String
  /-- Text of a byte string. -/
  bytes : List UInt8 → String

/-- One character inside a JSON string. -/
def escapeChar (c : Char) : String :=
  if c == '"' then "\\\""
  else if c == '\\' then "\\\\"
  else if c == '\n' then "\\n"
  else if c == '\r' then "\\r"
  else if c == '\t' then "\\t"
  else if c.val == 8 then "\\b"
  else if c.val == 12 then "\\f"
  else if c.val < 0x20 then "\\u" ++ Value.hexDigits 4 c.val.toNat
  else String.singleton c

/-- One code point inside a JSON string. -/
def escapePoint (n : Nat) : String :=
  if Text.isSurrogate n then "\\u" ++ Value.hexDigits 4 n else escapeChar (Char.ofNat n)

/-- A quoted JSON string. -/
def quote (s : String) : String :=
  "\"" ++ String.join ((Text.points s).map escapePoint) ++ "\""

mutual
/-- The compact JSON text of a value. -/
def write (st : Style) : Value → String
  | .none => "null"
  | .bool b => if b then "true" else "false"
  | .int n => Value.intText n
  | .float x => if isFinite x then floatNotation.render x else st.nonFinite x
  | .str s => quote s
  | .bytes data => st.bytes data
  | .list items => "[" ++ writeItems st items ++ "]"
  | .dict entries => "\x7b" ++ writeEntries st entries ++ "\x7d"

/-- Array items separated by commas. -/
def writeItems (st : Style) : List Value → String
  | [] => ""
  | [v] => write st v
  | v :: rest => write st v ++ "," ++ writeItems st rest

/-- Object members `"key":value` separated by commas. -/
def writeEntries (st : Style) : List (String × Value) → String
  | [] => ""
  | [(k, v)] => quote k ++ ":" ++ write st v
  | (k, v) :: rest => quote k ++ ":" ++ write st v ++ "," ++ writeEntries st rest
end

/-- The word for a non-finite double in the document form. -/
def nonFiniteWord (x : Float) : String :=
  match Binary.ofFloat x with
  | .inf true => "-inf"
  | .inf false => "inf"
  | _ => "nan"

/-- The document form: byte strings as `{"$bytes": lower-case hex}` and non-finite
doubles as `{"$float": "inf" | "-inf" | "nan"}`. -/
def document : Style :=
  { nonFinite := fun x => "\x7b\"$float\":" ++ quote (nonFiniteWord x) ++ "\x7d"
    bytes := fun data =>
      "\x7b\"$bytes\":\"" ++ String.join (data.map fun b => Value.hexDigits 2 b.toNat) ++ "\"\x7d" }

/-- The lenient form: non-finite doubles as the bare words `NaN`, `Infinity` and
`-Infinity` that lenient JSON readers accept, byte strings as in the document
form. -/
def lenient : Style :=
  { nonFinite := fun x => match nonFiniteWord x with
      | "inf" => "Infinity"
      | "-inf" => "-Infinity"
      | _ => "NaN"
    bytes := document.bytes }

/-- The payload form: non-finite doubles are `null`. Byte strings are refused
before writing and never reach it. -/
def payload : Style :=
  { nonFinite := fun _ => "null", bytes := fun _ => "null" }

end PublishPool.Json
