import PublishPool.Value
import PublishPool.Number.Notation
import PublishPool.Text.Printable

/-!
Literal text of values.

Descriptions of messages and settings show values as literals: texts and byte
strings quoted, lists in brackets, mappings in braces with `key: value` entries,
`True`, `False` and `None`, integers in decimal and doubles in `Value.floatNotation`.

A quoted text uses single quotes, unless it contains a single quote and no double
quote; then it uses double quotes. Inside, the quote in use and the backslash are
escaped, tab, newline and carriage return are written `\t`, `\n`, `\r`, and any
other code point that is not printable, a lone surrogate among them, as a
hexadecimal escape of two, four or eight digits. Byte strings follow the same rules with a `b` in front, every byte outside
printable ASCII being written `\xNN`.
-/

namespace PublishPool.Value

open PublishPool.Number PublishPool.Text

/-- Doubles in literals: shortest digits, positional for decimal exponents from
-4 to 15, otherwise `e` with a sign and at least two exponent digits; `nan`,
`inf`. -/
def floatNotation : Notation :=
  { positionalFrom := -4, positionalBelow := 16, plusSign := true, exponentWidth := 2,
    nanText := "nan", infText := "inf" }

/-- Lower-case hexadecimal digits of `n`, padded with zeros to `width`. -/
def hexDigits (width n : Nat) : String :=
  let ds := Nat.toDigits 16 n
  String.ofList (List.replicate (width - ds.length) '0' ++ ds)

/-- The quote character for a text: `"` when it contains `'` and no `"`. -/
def quoteFor (hasSingle hasDouble : Bool) : Char :=
  if hasSingle && !hasDouble then '"' else '\''

/-- One character of a quoted text. -/
def escapeChar (quote : Char) (c : Char) : String :=
  if c == quote || c == '\\' then String.ofList ['\\', c]
  else if c == '\t' then "\\t"
  else if c == '\n' then "\\n"
  else if c == '\r' then "\\r"
  else if isPrintable c then String.singleton c
  else if c.val < 0x100 then "\\x" ++ hexDigits 2 c.val.toNat
  else if c.val < 0x10000 then "\\u" ++ hexDigits 4 c.val.toNat
  else "\\U" ++ hexDigits 8 c.val.toNat

/-- One code point of a quoted text; a lone surrogate is not printable. -/
def escapePoint (quote : Char) (n : Nat) : String :=
  if Text.isSurrogate n then "\\u" ++ hexDigits 4 n else escapeChar quote (Char.ofNat n)

/-- The quoted literal of a text. -/
def quote (s : String) : String :=
  let ns := Text.points s
  let q := quoteFor (ns.contains '\''.toNat) (ns.contains '"'.toNat)
  String.singleton q ++ String.join (ns.map (escapePoint q)) ++ String.singleton q

/-- One byte of a byte-string literal. -/
def escapeByte (quote : Char) (b : UInt8) : String :=
  let n := b.toNat
  if n == quote.toNat || n == 0x5C then String.ofList ['\\', Char.ofNat n]
  else if n == 9 then "\\t"
  else if n == 10 then "\\n"
  else if n == 13 then "\\r"
  else if 0x20 ≤ n ∧ n < 0x7F then String.singleton (Char.ofNat n)
  else "\\x" ++ hexDigits 2 n

/-- The literal of a byte string, `b` and a quoted body. -/
def quoteBytes (data : List UInt8) : String :=
  let q := quoteFor (data.contains 0x27) (data.contains 0x22)
  "b" ++ String.singleton q ++ String.join (data.map (escapeByte q)) ++ String.singleton q

/-- Decimal text of an integer. -/
def intText (n : Int) : String :=
  (if n < 0 then "-" else "") ++ digitText n.natAbs

mutual
/-- The literal text of a value. -/
def literal : Value → String
  | .none => "None"
  | .bool b => if b then "True" else "False"
  | .int n => intText n
  | .float x => floatNotation.render x
  | .str s => quote s
  | .bytes data => quoteBytes data
  | .list items => "[" ++ literalItems items ++ "]"
  | .dict entries => "\x7b" ++ literalEntries entries ++ "\x7d"

/-- List items, separated by `, `. -/
def literalItems : List Value → String
  | [] => ""
  | [v] => literal v
  | v :: rest => literal v ++ ", " ++ literalItems rest

/-- Mapping entries `key: value`, separated by `, `. -/
def literalEntries : List (String × Value) → String
  | [] => ""
  | [(k, v)] => quote k ++ ": " ++ literal v
  | (k, v) :: rest => quote k ++ ": " ++ literal v ++ ", " ++ literalEntries rest
end

/-- How a value reads in running text: a text as itself, any other value as its
literal. -/
def display : Value → String
  | .str s => s
  | v => literal v

/-- The literal of a list of texts. -/
def textListLiteral (items : List String) : String :=
  literal (.list (items.map .str))

end PublishPool.Value
