import PublishPool.Text.Points

/-!
Dynamic values.

Payloads carry arbitrary structured data, and settings arrive as loosely typed
entries, so both are given as a `Value`: nothing, a flag, an integer of any size, a
double, a text, a byte string, a list, or a mapping from texts to values that keeps
its insertion order. Integers and doubles stay apart: `1` and `1.0` are different
values and are written differently. A text is kept as `Text.points` describes, so it
may hold lone surrogates.
-/

namespace PublishPool

/-- A structured value. Mappings keep their entries in insertion order. -/
inductive Value where
  | none
  | bool (b : Bool)
  | int (n : Int)
  | float (x : Float)
  | str (s : String)
  | bytes (data : List UInt8)
  | list (items : List Value)
  | dict (entries : List (String × Value))
  deriving Inhabited

namespace Value

/-- The name of a value's type, as error texts about operands print it. -/
def typeName : Value → String
  | .none => "NoneType"
  | .bool _ => "bool"
  | .int _ => "int"
  | .float _ => "float"
  | .str _ => "str"
  | .bytes _ => "bytes"
  | .list _ => "list"
  | .dict _ => "dict"

/-- The entry stored under a key of a mapping, if any. -/
def lookup (entries : List (String × Value)) (key : String) : Option Value :=
  (entries.find? (·.1 == key)).map (·.2)

/-- A field of a mapping value; `none` for other values and absent keys. -/
def field? (v : Value) (key : String) : Option Value :=
  match v with
  | .dict entries => lookup entries key
  | _ => Option.none

/-- Inserts or replaces an entry: a new key goes last, a present key keeps its
place and takes the new value. -/
def insertEntry {α : Type} (entries : List (String × α)) (key : String) (v : α) :
    List (String × α) :=
  if entries.any (·.1 == key) then
    entries.map fun e => if e.1 == key then (key, v) else e
  else entries ++ [(key, v)]

/-- Whether a value counts as true in a condition: nothing, `false`, zero, an empty
text, byte string, list or mapping count as false. -/
def truthy : Value → Bool
  | .none => false
  | .bool b => b
  | .int n => n != 0
  | .float x => x != 0
  | .str s => !s.isEmpty
  | .bytes b => !b.isEmpty
  | .list xs => !xs.isEmpty
  | .dict es => !es.isEmpty

/-- Whether a value equals the integer zero: zero itself, a zero double of either
sign, or `false`. -/
def isZero : Value → Bool
  | .bool b => !b
  | .int n => n == 0
  | .float x => x == 0
  | _ => false

end Value

end PublishPool
