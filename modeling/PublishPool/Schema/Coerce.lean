import PublishPool.Schema.Issue
import PublishPool.Value
import PublishPool.Number.Reading
import PublishPool.Text.Blank

/-!
Lenient conversion of input values to typed fields.

Each converter accepts the value's own type and a few others that convert without
loss, and names the problem otherwise:

* a text accepts texts and UTF-8 byte strings;
* an integer accepts integers, flags (as 0 and 1), whole finite doubles within
  64 bits, and texts of an optional sign and digits after trimming white space,
  also with a point followed by zeros only or with single underscores between
  digits;
* a double accepts doubles, integers (rounded once), flags, and texts of a decimal
  numeral or `inf`, `infinity`, `nan` after trimming, or with single underscores
  between digits;
* a flag accepts flags, the integers 0 and 1, the doubles 0.0 and 1.0, and the
  usual words for yes and no.

`Checked` collects the issues of many fields at once: `Checked.ap` keeps the
issues of both sides, so a record built field by field reports every bad field,
in field order.
-/

namespace PublishPool.Schema

open PublishPool.Number PublishPool.Text

/-- A checked value, or the issues that stop it. -/
abbrev Checked (α : Type) := Except (List Issue) α

/-- Applies a checked function to a checked argument, keeping the issues of both. -/
def Checked.ap {α β : Type} (f : Checked (α → β)) (x : Checked α) : Checked β :=
  match f, x with
  | .ok g, .ok a => .ok (g a)
  | .error e, .ok _ => .error e
  | .ok _, .error e => .error e
  | .error e₁, .error e₂ => .error (e₁ ++ e₂)

/-- A field's conversion, with its issue placed at the field. -/
def atField {α : Type} (name : String) (r : Except Issue.Kind α) : Checked α :=
  match r with
  | .ok a => .ok a
  | .error k => .error [{ kind := k, loc := [.key name] }]

/-- A text. -/
def text : Value → Except Issue.Kind String
  | .str s => .ok s
  | .bytes data =>
    match String.fromUTF8? (ByteArray.mk data.toArray) with
    | some s => .ok (Text.ofChars s.toList)
    | none => .error .stringUnicode
  | _ => .error .stringType

/-- Removes single underscores that stand between other characters; `none` when
there is none, or one at an end, or two in a row. -/
def dropUnderscores (s : String) : Option String :=
  let cs := s.toList
  if !cs.contains '_' || cs.head? == some '_' || cs.getLast? == some '_' ||
      (cs.zip cs.tail).any (fun p => p.1 == '_' && p.2 == '_') then none
  else some (String.ofList (cs.filter (· != '_')))

/-- The text before the first point when one or more zeros and nothing else follow
it; the whole text when it has no point; `none` otherwise. -/
def dropZeroFraction (cs : List Char) : Option (List Char) :=
  match cs.span (· != '.') with
  | (whole, '.' :: frac) => if !frac.isEmpty && frac.all (· == '0') then some whole else none
  | (whole, _) => some whole

/-- Digits with single underscores between two digits: the digits alone; `none`
when there is no digit, a character other than a digit or an underscore, or an
underscore not between two digits. -/
def groupedDigits (cs : List Char) : Option (List Char) :=
  let ok := match cs.head?, cs.getLast? with
    | some a, some b => a.isDigit && b.isDigit
    | _, _ => false
  if ok && cs.all (fun c => c.isDigit || c == '_') &&
      !(cs.zip cs.tail).any (fun p => p.1 == '_' && p.2 == '_') then
    some (cs.filter Char.isDigit)
  else none

/-- An integer from text: after trimming, an optional sign and digits, possibly
grouped by single underscores and followed by a point and zeros. A number of more
than `maxIntDigits` significant digits is refused as too large. -/
def intOfText (raw : String) : Except Issue.Kind Int :=
  match dropZeroFraction (trimWhite raw).toList with
  | none => .error .intParsing
  | some cs =>
    let (neg, rest) := takeSign cs
    match groupedDigits rest with
    | none => .error .intParsing
    | some ds =>
      if (ds.dropWhile (· == '0')).length > maxIntDigits then .error .intParsingSize
      else
        let n : Int := digitsValue ds
        .ok (if neg then -n else n)

/-- Bounds of 64-bit integers as doubles: a whole double strictly between them
converts. -/
def int64Bound : Int := Int.pow 2 63

/-- An integer from a double: finite, whole, and strictly inside the 64-bit range. -/
def intOfFloat (x : Float) : Except Issue.Kind Int :=
  if !isFinite x then .error .finiteNumber
  else match toWhole? x with
    | none => .error .intFromFloat
    | some n => if -int64Bound < n ∧ n < int64Bound then .ok n else .error .intParsingSize

/-- An integer. -/
def int : Value → Except Issue.Kind Int
  | .int n => .ok n
  | .bool b => .ok (if b then 1 else 0)
  | .float x => intOfFloat x
  | .str s => intOfText s
  | .bytes data =>
    match String.fromUTF8? (ByteArray.mk data.toArray) with
    | some s => intOfText s
    | none => .error .intParsing
  | _ => .error .intType

/-- A double from text. -/
def floatOfText (raw : String) : Except Issue.Kind Float :=
  match readFloat? (trimWhite raw) with
  | some x => .ok x
  | none =>
    match dropUnderscores raw with
    | some w => (readFloat? w).elim (.error .floatParsing) .ok
    | none => .error .floatParsing

/-- A double. -/
def float : Value → Except Issue.Kind Float
  | .float x => .ok x
  | .int n => let x := ofInt n; if isFinite x then .ok x else .error .floatType
  | .bool b => .ok (if b then 1 else 0)
  | .str s => floatOfText s
  | .bytes data =>
    match String.fromUTF8? (ByteArray.mk data.toArray) with
    | some s => floatOfText s
    | none => .error .floatParsing
  | _ => .error .floatType

/-- Words read as true, after trimming and lowering. -/
def yesWords : List String := ["1", "on", "t", "true", "y", "yes"]

/-- Words read as false, after trimming and lowering. -/
def noWords : List String := ["0", "off", "f", "false", "n", "no"]

/-- A flag from a word, matched ignoring ASCII case and without trimming. -/
def boolOfText (s : String) : Except Issue.Kind Bool :=
  let w := s.map Char.toLower
  if yesWords.contains w then .ok true
  else if noWords.contains w then .ok false
  else .error .boolParsing

/-- A flag from an integer: 0 and 1 are flags, other 64-bit integers are refused as
unreadable, and larger ones as not flags at all. -/
def boolOfInt (n : Int) : Except Issue.Kind Bool :=
  if n = 0 then .ok false else if n = 1 then .ok true
  else if -int64Bound ≤ n ∧ n < int64Bound then .error .boolParsing
  else .error .boolType

/-- A flag. A double counts only when it converts to an integer. -/
def bool : Value → Except Issue.Kind Bool
  | .bool b => .ok b
  | .int n => boolOfInt n
  | .float x =>
    match intOfFloat x with
    | .ok n => if n = 0 then .ok false else if n = 1 then .ok true else .error .boolParsing
    | .error _ => .error .boolType
  | .str s => boolOfText s
  | .bytes data =>
    match String.fromUTF8? (ByteArray.mk data.toArray) with
    | some s => boolOfText s
    | none => .error .boolParsing
  | _ => .error .boolType

/-- Each item of a list converted, an issue placed at its index. -/
def items {α : Type} (conv : Value → Except Issue.Kind α) (xs : List Value) : Checked (List α) :=
  let rec go : Nat → List Value → Checked (List α)
    | _, [] => .ok []
    | i, x :: rest =>
      Checked.ap ((fun a as => a :: as) <$> (match conv x with
        | .ok a => .ok a
        | .error k => .error [{ kind := k, loc := [.index i] }])) (go (i + 1) rest)
  go 0 xs

/-- Each value of a mapping converted, an issue placed at its key. -/
def entries {α : Type} (conv : Value → Except Issue.Kind α) :
    List (String × Value) → Checked (List (String × α))
  | [] => .ok []
  | (k, v) :: rest =>
    Checked.ap ((fun a as => (k, a) :: as) <$> (match conv v with
      | .ok a => .ok a
      | .error kind => .error [{ kind := kind, loc := [.key k] }])) (entries conv rest)

/-- Places issues under a field name. -/
def under {α : Type} (name : String) (c : Checked α) : Checked α :=
  match c with
  | .ok a => .ok a
  | .error issues => .error (issues.map (Issue.under (.key name)))

end PublishPool.Schema
