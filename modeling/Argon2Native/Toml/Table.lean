import Argon2Native.Toml.Value
/-!
TOML tables while a document defines them. A table remembers how it came to be, because that
decides what may still be added to it:

* one opened by a header is not opened again, and takes no dotted keys from outside;
* one implied by a longer header may be opened once;
* one implied by a dotted key takes more dotted keys, but no header opens it.
-/
namespace Argon2Native.Toml

inductive Origin where
  | header
  | impliedByHeader
  | dotted
  deriving DecidableEq

inductive Item where
  | value (v : Value)
  | table (origin : Origin) (entries : List (String × Item))
  /-- An array of tables, of which the last one is open. -/
  | rows (tables : List (List (String × Item)))

abbrev Items := List (String × Item)

namespace Items

def add (key : String) (item : Item) (items : Items) : Items := items ++ [(key, item)]

def replace (key : String) (item : Item) (items : Items) : Items :=
  items.map fun (other, old) => if other = key then (other, item) else (other, old)

def inLast (f : Items → Option Items) (tables : List Items) : Option (List Items) := do
  let last ← tables.getLast?
  return tables.dropLast ++ [← f last]

def descend (f : Items → Option Items) : List String → Items → Option Items
  | [], items => f items
  | key :: path, items =>
    match items.lookup key with
    | none => do return items.add key (.table .impliedByHeader (← descend f path []))
    | some (.table origin inner) => do
      return items.replace key (.table origin (← descend f path inner))
    | some (.rows tables) => do
      return items.replace key (.rows (← inLast (descend f path) tables))
    | some (.value _) => none

def assign (v : Value) : List String → Items → Option Items
  | [], _ => none
  | [key], items => if (items.lookup key).isSome then none else some (items.add key (.value v))
  | key :: path, items =>
    match items.lookup key with
    | none => do return items.add key (.table .dotted (← assign v path []))
    | some (.table origin inner) =>
      if origin = .dotted ∨ (origin = .impliedByHeader ∧ path.length ≠ 1) then do
        return items.replace key (.table origin (← assign v path inner))
      else none
    | some (.rows tables) =>
      if path.length = 1 then none
      else do return items.replace key (.rows (← inLast (assign v path) tables))
    | some (.value _) => none

def openTable (key : String) (items : Items) : Option Items :=
  match items.lookup key with
  | none => some (items.add key (.table .header []))
  | some (.table .impliedByHeader inner) => some (items.replace key (.table .header inner))
  | some _ => none

def openRow (key : String) (items : Items) : Option Items :=
  match items.lookup key with
  | none => some (items.add key (.rows [[]]))
  | some (.rows tables) => some (items.replace key (.rows (tables ++ [[]])))
  | some _ => none

end Items

mutual

def Item.finish : Item → Value
  | .value v => v
  | .table _ items => .table (finishItems items)
  | .rows tables => .array (finishRows tables)

def finishItems : List (String × Item) → Entries
  | [] => []
  | (key, item) :: rest => (key, item.finish) :: finishItems rest

def finishRows : List (List (String × Item)) → List Value
  | [] => []
  | items :: rest => .table (finishItems items) :: finishRows rest

end

end Argon2Native.Toml
