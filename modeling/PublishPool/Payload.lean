import PublishPool.Json.Write
import PublishPool.Fault

/-!
Payloads and the bytes they are sent as.

A message body is a text, a byte string, a mapping or a list (`Payload`). On the
wire a byte string goes as it is, a mapping or list as compact JSON, and anything
else as its running text in UTF-8 (`Value.wireBytes`).

A text has a UTF-8 form unless it holds a lone surrogate: encoding fails at the
first one, naming the run of surrogates that starts there (`Text.encode`).

JSON for the wire has limits that the writer itself does not: integers must fit
in 64 bits, signed or unsigned; byte strings have no JSON form; texts, keys among
them, must have a UTF-8 form; and containers may nest at most 254 deep. The
document is walked in writing order and the first offence found is the fault
(`Value.jsonProblem`).
-/

namespace PublishPool

/-- A message body. -/
inductive Payload where
  | text (s : String)
  | bytes (data : List UInt8)
  | dict (entries : List (String × Value))
  | list (items : List Value)
  deriving Inhabited

/-- The value form of a payload. -/
def Payload.toValue : Payload → Value
  | .text s => .str s
  | .bytes data => .bytes data
  | .dict entries => .dict entries
  | .list items => .list items

namespace Text

/-- The fault of encoding a text whose code points from `start` on are a run of
`run ≥ 1` lone surrogates, the first of them `first`. -/
def encodeFault (first start run : Nat) : Fault :=
  .raised .unicodeEncode (if run = 1 then
      "'utf-8' codec can't encode character '\\u" ++ Value.hexDigits 4 first ++
        "' in position " ++ toString start ++ ": surrogates not allowed"
    else "'utf-8' codec can't encode characters in position " ++ toString start ++ "-" ++
      toString (start + run - 1) ++ ": surrogates not allowed")

/-- The UTF-8 bytes of a text, or the fault at its first lone surrogate. -/
def encode (s : String) : Except Fault (List UInt8) :=
  let ns := points s
  match ns.findIdx? isSurrogate with
  | some i =>
    let run := (ns.drop i).takeWhile isSurrogate
    .error (encodeFault (run.headD 0) i run.length)
  | none => .ok (String.ofList (ns.map Char.ofNat)).toUTF8.data.toList

end Text

namespace Value

/-- Deepest container nesting allowed on the wire. -/
def maxNesting : Nat := 254

/-- An integer that fits in 64 bits, signed or unsigned. -/
def fitsWire (n : Int) : Bool := decide (-(Int.pow 2 63 : Int) ≤ n ∧ n < Int.pow 2 64)

/-- A fault of the wire's JSON: an integer out of range. -/
def intRangeFault : Fault := .raised .typeMismatch "Integer exceeds 64-bit range"

/-- A fault of the wire's JSON: a byte string inside a container. -/
def bytesFault : Fault := .raised .typeMismatch "Type is not JSON serializable: bytes"

/-- A fault of the wire's JSON: containers nested too deep. -/
def nestingFault : Fault := .raised .typeMismatch "Recursion limit reached"

/-- A fault of the wire's JSON: a text with a lone surrogate. -/
def surrogateFault : Fault := .raised .typeMismatch "str is not valid UTF-8: surrogates not allowed"

/-- The offence of a text on the wire: a lone surrogate. -/
def textProblem (s : String) : Option Fault :=
  if (Text.points s).any Text.isSurrogate then some surrogateFault else Option.none

mutual
/-- The first offence against the wire's limits, in writing order, of a value at
the given container depth. -/
def jsonProblem (depth : Nat) : Value → Option Fault
  | .int n => if fitsWire n then Option.none else some intRangeFault
  | .str s => textProblem s
  | .bytes _ => some bytesFault
  | .list items => if depth + 1 > maxNesting then some nestingFault else itemsProblem (depth + 1) items
  | .dict entries =>
    if depth + 1 > maxNesting then some nestingFault else entriesProblem (depth + 1) entries
  | _ => Option.none

/-- The first offence among list items. -/
def itemsProblem (depth : Nat) : List Value → Option Fault
  | [] => Option.none
  | v :: rest => (jsonProblem depth v).orElse fun _ => itemsProblem depth rest

/-- The first offence among mapping entries, each key before its value. -/
def entriesProblem (depth : Nat) : List (String × Value) → Option Fault
  | [] => Option.none
  | (k, v) :: rest =>
    ((textProblem k).orElse fun _ => jsonProblem depth v).orElse fun _ => entriesProblem depth rest
end

/-- The bytes a value is sent as. -/
def wireBytes (v : Value) : Except Fault (List UInt8) :=
  match v with
  | .bytes data => .ok data
  | .list _ | .dict _ =>
    match jsonProblem 0 v with
    | some f => .error f
    | Option.none => Text.encode (Json.write Json.payload v)
  | _ => Text.encode v.display

end Value

end PublishPool
