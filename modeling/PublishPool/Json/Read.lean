import PublishPool.Value
import PublishPool.Number.Reading

/-!
Reading JSON documents into values.

`Json.parse` reads one JSON value surrounded by blanks (space, tab, newline,
carriage return). A number with a fraction or an exponent is a double, rounded
once; any other number is an integer of any size. The words `NaN`, `Infinity` and
`-Infinity` are doubles too. Strings take the escapes `\" \\ \/ \b \f \n \r \t`
and `\uXXXX`, where a surrogate pair makes one code point and a lone surrogate stays
one, kept as `Text.ofPoint` says; a raw control character in a string is refused. A key given twice
keeps its first place and its last value.

Objects stay mappings, also those that `Json.write` uses for byte strings and
non-finite doubles: `Json.untag` reads those where a request asks for it.

Arrays and objects nest at most `maxNesting` deep, and an integer has at most
`maxIntDigits` digits: deeper or longer documents are refused like malformed ones.

Each step of the reader consumes input, so the recursion is bounded by a fuel of
one unit per character.
-/

namespace PublishPool.Json

open PublishPool.Number

/-- How deep arrays and objects may nest in a document. -/
def maxNesting : Nat := 994

/-- Skips JSON blanks. -/
def skipBlank (cs : List Char) : List Char :=
  cs.dropWhile fun c => c == ' ' || c == '\t' || c == '\n' || c == '\r'

/-- The value of one hexadecimal digit. -/
def hexValue? (c : Char) : Option Nat :=
  if c.isDigit then some (c.toNat - '0'.toNat)
  else if 'a' ≤ c ∧ c ≤ 'f' then some (c.toNat - 'a'.toNat + 10)
  else if 'A' ≤ c ∧ c ≤ 'F' then some (c.toNat - 'A'.toNat + 10)
  else none

/-- Four hexadecimal digits as one number. -/
def hexQuad? (a b c d : Char) : Option Nat := do
  let a ← hexValue? a
  let b ← hexValue? b
  let c ← hexValue? c
  let d ← hexValue? d
  some (((a * 16 + b) * 16 + c) * 16 + d)

/-- The character a simple escape stands for. -/
def simpleEscape? (c : Char) : Option Char :=
  match c with
  | '"' => some '"'
  | '\\' => some '\\'
  | '/' => some '/'
  | 'b' => some '\x08'
  | 'f' => some '\x0c'
  | 'n' => some '\n'
  | 'r' => some '\r'
  | 't' => some '\t'
  | _ => none

/-- A code point added to characters collected in reverse. -/
def pushPoint (n : Nat) (acc : List Char) : List Char := (Text.ofPoint n).reverse ++ acc

/-- The body of a string after its opening quote, up to and past the closing
quote. Characters are collected in reverse. -/
def readString (acc : List Char) (cs : List Char) : Option (String × List Char) :=
  match cs with
  | [] => none
  | '"' :: rest => some (String.ofList acc.reverse, rest)
  | '\\' :: 'u' :: a :: b :: c :: d :: rest =>
    match hexQuad? a b c d with
    | none => none
    | some hi =>
      if 0xD800 ≤ hi ∧ hi < 0xDC00 then
        match _hr : rest with
        | '\\' :: 'u' :: e :: f :: g :: k :: more =>
          match hexQuad? e f g k with
          | some lo =>
            if 0xDC00 ≤ lo ∧ lo < 0xE000 then
              readString (pushPoint (0x10000 + (hi - 0xD800) * 0x400 + (lo - 0xDC00)) acc) more
            else readString (pushPoint hi acc) rest
          | none => none
        | _ => readString (pushPoint hi acc) rest
      else readString (pushPoint hi acc) rest
  | '\\' :: c :: rest =>
    match simpleEscape? c with
    | some e => readString (e :: acc) rest
    | none => none
  | c :: rest => if c.val < 0x20 then none else readString (pushPoint c.toNat acc) rest
termination_by cs.length
decreasing_by all_goals (simp_all; try omega)

/-- A JSON number: an integer unless it has a fraction or an exponent. -/
def readNumber (cs : List Char) : Option (Value × List Char) :=
  let (neg, rest) := match cs with
    | '-' :: more => (true, more)
    | _ => (false, cs)
  let (whole, rest) := spanDigits rest
  if whole.isEmpty || (whole.length > 1 && whole.head? == some '0') then none
  else
    let (frac, rest, hasFrac) := match rest with
      | '.' :: more =>
        let (f, r) := spanDigits more
        (f, r, true)
      | _ => ([], rest, false)
    if hasFrac && frac.isEmpty then none
    else
      let (expo, rest, hasExp) : Int × List Char × Bool := match rest with
        | c :: more =>
          if c == 'e' || c == 'E' then
            let (eneg, more) := takeSign more
            let (ds, r) := spanDigits more
            if ds.isEmpty then (0, [], false)  -- marks a malformed exponent below
            else ((if eneg then -(digitsValue ds : Int) else digitsValue ds), r, true)
          else (0, rest, false)
        | [] => (0, [], false)
      let malformedExp := match rest with
        | c :: _ => (c == 'e' || c == 'E') && !hasExp
        | [] => false
      if malformedExp then none
      else if !hasFrac && !hasExp then
        if whole.length > maxIntDigits then none
        else
          let n : Int := digitsValue whole
          some (.int (if neg then -n else n), rest)
      else
        some (.float (ofDecimal neg (digitsValue (whole ++ frac)) (expo - frac.length)), rest)

mutual
/-- One value at the front of the input, after blanks, with room for `room` more
levels of arrays and objects. -/
def readValue : Nat → Nat → List Char → Option (Value × List Char)
  | 0, _, _ => none
  | fuel + 1, room, cs =>
    match skipBlank cs with
    | '[' :: rest =>
      match room with
      | 0 => none
      | room + 1 =>
        match skipBlank rest with
        | ']' :: more => some (.list [], more)
        | _ => readItems fuel room [] rest
    | '{' :: rest =>
      match room with
      | 0 => none
      | room + 1 =>
        match skipBlank rest with
        | '}' :: more => some (.dict [], more)
        | _ => readMembers fuel room [] rest
    | '"' :: rest => (readString [] rest).map fun (s, r) => (.str s, r)
    | 't' :: 'r' :: 'u' :: 'e' :: rest => some (.bool true, rest)
    | 'f' :: 'a' :: 'l' :: 's' :: 'e' :: rest => some (.bool false, rest)
    | 'n' :: 'u' :: 'l' :: 'l' :: rest => some (.none, rest)
    | 'N' :: 'a' :: 'N' :: rest => some (.float (withSign false (2047 * Nat.pow 2 fractionBits + Nat.pow 2 51)), rest)
    | 'I' :: 'n' :: 'f' :: 'i' :: 'n' :: 'i' :: 't' :: 'y' :: rest =>
      some (.float (withSign false (2047 * Nat.pow 2 fractionBits)), rest)
    | '-' :: 'I' :: 'n' :: 'f' :: 'i' :: 'n' :: 'i' :: 't' :: 'y' :: rest =>
      some (.float (withSign true (2047 * Nat.pow 2 fractionBits)), rest)
    | other => readNumber other

/-- Array items, collected in reverse: a value, then `,` and more or `]`. -/
def readItems : Nat → Nat → List Value → List Char → Option (Value × List Char)
  | 0, _, _, _ => none
  | fuel + 1, room, acc, cs =>
    match readValue fuel room cs with
    | none => none
    | some (v, rest) =>
      match skipBlank rest with
      | ',' :: more => readItems fuel room (v :: acc) more
      | ']' :: more => some (.list (v :: acc).reverse, more)
      | _ => none

/-- Object members: a quoted key, `:`, a value, then `,` and more or the closing
brace. -/
def readMembers : Nat → Nat → List (String × Value) → List Char → Option (Value × List Char)
  | 0, _, _, _ => none
  | fuel + 1, room, acc, cs =>
    match skipBlank cs with
    | '"' :: rest =>
      match readString [] rest with
      | none => none
      | some (key, rest) =>
        match skipBlank rest with
        | ':' :: rest =>
          match readValue fuel room rest with
          | none => none
          | some (v, rest) =>
            let acc := Value.insertEntry acc key v
            match skipBlank rest with
            | ',' :: more => readMembers fuel room acc more
            | '}' :: more => some (.dict acc, more)
            | _ => none
        | _ => none
    | _ => none
end

/-- Reads a whole text as one JSON value with blanks around it. -/
def parse (s : String) : Option Value :=
  let cs := s.toList
  match readValue (2 * cs.length + 2) maxNesting cs with
  | some (v, rest) => if (skipBlank rest).isEmpty then some v else none
  | none => none

end PublishPool.Json
