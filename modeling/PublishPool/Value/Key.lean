import PublishPool.Num

/-!
Values as keys.

A mapping keyed by values, or a set of values, treats two values as the same key
when they are equal texts, equal byte strings, both nothing, or numbers of equal
value, flags counting as 0 and 1: so `1`, `1.0` and `true` are one key. Lists and
mappings have no key form (`Value.keyable`).

A mapping built by successive insertions keeps a key where it first went in and
takes the value that went in last (`Value.collapse`); a set keeps the first of
equal elements (`Value.distinct`).
-/

namespace PublishPool

namespace Value

/-- Whether two values are the same key. -/
def sameKey (a b : Value) : Bool :=
  match a, b with
  | .str x, .str y => x == y
  | .bytes x, .bytes y => x == y
  | .none, .none => true
  | _, _ =>
    match Num.ofValue? a, Num.ofValue? b with
    | some x, some y => Num.order x y == some .eq
    | _, _ => false

/-- Whether a value can be a key. -/
def keyable : Value → Bool
  | .list _ | .dict _ => false
  | _ => true

/-- The distinct items of a list, the first of equal ones kept. -/
def distinct (xs : List Value) : List Value :=
  xs.foldl (fun acc x => if acc.any (sameKey x) then acc else acc ++ [x]) []

/-- Inserts an entry under a key: an entry with the same key takes the new item
in its place, else the entry goes last. -/
def insertKeyed {α : Type} (entries : List (Value × α)) (k : Value) (a : α) : List (Value × α) :=
  if entries.any (fun e => sameKey e.1 k) then
    entries.map fun e => if sameKey e.1 k then (e.1, a) else e
  else entries ++ [(k, a)]

/-- The items of a mapping built by inserting each item under its key, in order. -/
def collapse {α : Type} (key : α → Value) (xs : List α) : List α :=
  (xs.foldl (fun acc a => insertKeyed acc (key a) a) []).map (·.2)

end Value

end PublishPool
