import PublishPool.Json.Read
import PublishPool.Value.Literal
import PublishPool.Fault
import PublishPool.Number.Reading
import PublishPool.Text.Blank

/-!
Tagged objects: byte strings and doubles written inside JSON documents.

JSON has no byte strings and no non-finite numbers, so a document writes them as
objects with one tag key: `{"$bytes": hex}` and `{"$float": text}`. `untag`
replaces every such object in a value by what it stands for, in document order,
and the first one that stands for nothing is the fault. Other objects, whatever
their keys, stay mappings.

* Hex text (`bytesOfHex`) is pairs of hex digits of either case, with ASCII white
  space allowed before each pair. Any other character is refused with its
  position, and so is a lone digit at the end (the position is then the length of
  the text). A text with a character beyond ASCII is refused at the first such
  character, before anything else is looked at.
* Float text (`floatOfText?`) is stripped of blanks and read as a decimal numeral
  or one of the words for infinity and NaN, each with an optional sign; single
  underscores may stand between two digits. An integer, a flag or a double under
  the tag stands for itself as a double.

Only the places a request names as documents are untagged: the other fields of a
request are taken as they are written.

Untagging works through a stack of `untagRoom` frames: each value visited takes one
frame and each array or object one more for its parts, so a value whose innermost
part lies too deep is refused with a recursion fault.
-/

namespace PublishPool.Json

open PublishPool.Number PublishPool.Text

/-- The ASCII white space allowed between byte pairs: space, tab, line feed, line
tabulation, form feed and carriage return. -/
def isHexGap (c : Char) : Bool :=
  c == ' ' || c == '\t' || c == '\n' || c == '\x0b' || c == '\x0c' || c == '\r'

/-- The refusal of hex text at a character position. -/
def badHexAt (pos : Nat) : Fault :=
  .raised .badValue ("non-hexadecimal number found in fromhex() arg at position " ++ toString pos)

/-- Byte pairs of ASCII hex text whose first character is at `pos`. -/
def hexPairs : Nat → List Char → Except Fault (List UInt8)
  | _, [] => .ok []
  | pos, [c] =>
    if isHexGap c then .ok []
    else match hexValue? c with
      | some _ => .error (badHexAt (pos + 1))
      | none => .error (badHexAt pos)
  | pos, c :: d :: rest =>
    if isHexGap c then hexPairs (pos + 1) (d :: rest)
    else match hexValue? c, hexValue? d with
      | some hi, some lo => ((hi * 16 + lo).toUInt8 :: ·) <$> hexPairs (pos + 2) rest
      | some _, none => .error (badHexAt (pos + 1))
      | none, _ => .error (badHexAt pos)

/-- The bytes that hex text stands for. -/
def bytesOfHex (s : String) : Except Fault (List UInt8) :=
  let cs := s.toList
  match cs.findIdx? (fun c => c.val > 127) with
  | some pos => .error (badHexAt pos)
  | none => hexPairs 0 cs

/-- The bytes under a `$bytes` tag: hex text, and nothing else. -/
def bytesOfTagged : Value → Except Fault (List UInt8)
  | .str s => bytesOfHex s
  | .none => .error (.raised .typeMismatch "fromhex() argument must be str, not None")
  | v => .error (.raised .typeMismatch ("fromhex() argument must be str, not " ++ v.typeName))

/-- Whether every underscore stands between two digits. -/
def digitGrouped : Char → List Char → Bool
  | _, [] => true
  | before, '_' :: rest =>
    before.isDigit && (match rest with
      | d :: _ => d.isDigit
      | [] => false) && digitGrouped '_' rest
  | _, c :: rest => digitGrouped c rest

/-- A double from text, after stripping blanks, with underscores allowed between
digits. -/
def floatOfText? (s : String) : Option Float :=
  let cs := (strip s).toList
  if cs.contains '_' then
    if digitGrouped ' ' cs then readFloat? (String.ofList (cs.filter (· != '_'))) else none
  else readFloat? (String.ofList cs)

/-- The double under a `$float` tag. -/
def floatOfTagged : Value → Except Fault Float
  | .str s =>
    match floatOfText? s with
    | some x => .ok x
    | none => .error (.raised .badValue ("could not convert string to float: " ++ Value.quote s))
  | .int n => let x := ofInt n; if isFinite x then .ok x else .error Fault.intTooLarge
  | .bool b => .ok (if b then 1 else 0)
  | .float x => .ok x
  | v => .error (.raised .typeMismatch
      ("float() argument must be a string or a real number, not '" ++ v.typeName ++ "'"))

/-- The frames untagging may use. -/
def untagRoom : Nat := 994

/-- The fault of running out of frames. -/
def tooDeep : Fault := .raised .recursion "maximum recursion depth exceeded"

mutual
/-- Replaces every tagged object of a value by what it stands for, with `room`
frames left. -/
def untagWithin : Nat → Value → Except Fault Value
  | 0, _ => .error tooDeep
  | _ + 1, .dict [("$bytes", v)] => .bytes <$> bytesOfTagged v
  | _ + 1, .dict [("$float", v)] => .float <$> floatOfTagged v
  | room + 1, .dict entries =>
    match room with
    | 0 => .error tooDeep
    | room + 1 => .dict <$> untagEntries room entries
  | room + 1, .list items =>
    match room with
    | 0 => .error tooDeep
    | room + 1 => .list <$> untagItems room items
  | _ + 1, v => .ok v

/-- Untagging every item, in order. -/
def untagItems : Nat → List Value → Except Fault (List Value)
  | _, [] => .ok []
  | room, v :: rest => do
    let v' ← untagWithin room v
    let rest' ← untagItems room rest
    pure (v' :: rest')

/-- Untagging every entry's value, in order. -/
def untagEntries : Nat → List (String × Value) → Except Fault (List (String × Value))
  | _, [] => .ok []
  | room, (k, v) :: rest => do
    let v' ← untagWithin room v
    let rest' ← untagEntries room rest
    pure ((k, v') :: rest')
end

/-- Replaces every tagged object of a value by what it stands for. -/
def untag (v : Value) : Except Fault Value := untagWithin untagRoom v

end PublishPool.Json
