import PublishPool.Fault

/-!
Reaching into values: iteration, subscripts and entry lookup.

Documents that script a broker's answers are read as they are written, with no
checking, so reaching into them follows the rules of a dynamically typed language:

* iterating a list gives its items, a text its code points as texts, a byte
  string its bytes as integers, and a mapping its keys; other values cannot be
  iterated;
* `v.item i` subscripts by position: a list, a text or a byte string by index,
  failing past its end; a mapping has text keys only, so an integer key is never
  found; other values cannot be subscripted;
* `v.member k` subscripts by a text key: a mapping by lookup, failing for a missing
  key; a list, a text or a byte string refuse a text index;
* `v.entries?` gives the entries of a mapping for lookups with defaults; other
  values have no such lookup.

Each failure is the fault a caller sees, with its class and text.
-/

namespace PublishPool

namespace Value

/-- The items of a value read as a sequence, or the fault for a value that is not
one. -/
def iterate (v : Value) : Except Fault (List Value) :=
  match v with
  | .list items => .ok items
  | .str s => .ok ((Text.points s).map fun n => .str (Text.ofPoints [n]))
  | .bytes data => .ok (data.map fun b => .int b.toNat)
  | .dict entries => .ok (entries.map fun e => .str e.1)
  | _ => .error (.raised .typeMismatch ("'" ++ v.typeName ++ "' object is not iterable"))

/-- The fault of subscripting a value that has no parts. -/
def notSubscriptable (v : Value) : Fault :=
  .raised .typeMismatch ("'" ++ v.typeName ++ "' object is not subscriptable")

/-- The part of a value at a position. -/
def item (v : Value) (i : Nat) : Except Fault Value :=
  match v with
  | .list items =>
    match items[i]? with
    | some x => .ok x
    | Option.none => .error (.raised .index "list index out of range")
  | .str s =>
    match (Text.points s)[i]? with
    | some n => .ok (.str (Text.ofPoints [n]))
    | Option.none => .error (.raised .index "string index out of range")
  | .bytes data =>
    match data[i]? with
    | some b => .ok (.int b.toNat)
    | Option.none => .error (.raised .index "index out of range")
  | .dict _ => .error (.raised .key (toString i))
  | _ => .error (notSubscriptable v)

/-- The part of a value under a text key. -/
def member (v : Value) (k : String) : Except Fault Value :=
  match v with
  | .dict entries =>
    match lookup entries k with
    | some x => .ok x
    | Option.none => .error (.raised .key (quote k))
  | .list _ => .error (.raised .typeMismatch "list indices must be integers or slices, not str")
  | .str _ => .error (.raised .typeMismatch "string indices must be integers, not 'str'")
  | .bytes _ => .error (.raised .typeMismatch "byte indices must be integers or slices, not str")
  | _ => .error (notSubscriptable v)

/-- The entries of a mapping, for lookups with defaults. -/
def entries? (v : Value) : Except Fault (List (String × Value)) :=
  match v with
  | .dict es => .ok es
  | _ => .error (.raised .attribute ("'" ++ v.typeName ++ "' object has no attribute 'get'"))

/-- The entry under a key, or a default when there is none. -/
def lookupOr (es : List (String × Value)) (k : String) (default : Value) : Value :=
  (lookup es k).getD default

end Value

end PublishPool
