/-!
TOML documents as values. Numbers that are not integers and dates keep their text.

Main statement: `Value.same_iff`, by which values can be compared.
-/
namespace Argon2Native.Toml

inductive Value where
  | string (s : String)
  | integer (n : Int)
  | float (text : List Char)
  | boolean (b : Bool)
  | date (text : List Char)
  | array (items : List Value)
  | table (entries : List (String × Value))

abbrev Entries := List (String × Value)

mutual

def Value.same : Value → Value → Bool
  | .string s, .string t => s == t
  | .integer m, .integer n => m == n
  | .float s, .float t => s == t
  | .boolean b, .boolean c => b == c
  | .date s, .date t => s == t
  | .array vs, .array ws => sameItems vs ws
  | .table vs, .table ws => sameEntries vs ws
  | _, _ => false

def sameItems : List Value → List Value → Bool
  | [], [] => true
  | v :: vs, w :: ws => v.same w && sameItems vs ws
  | _, _ => false

def sameEntries : List (String × Value) → List (String × Value) → Bool
  | [], [] => true
  | (key, v) :: vs, (other, w) :: ws => key == other && v.same w && sameEntries vs ws
  | _, _ => false

end

mutual

theorem Value.same_iff (v w : Value) : v.same w ↔ v = w := by
  cases v with
  | array vs => cases w <;> simp [Value.same, sameItems_iff vs]
  | table vs => cases w <;> simp [Value.same, sameEntries_iff vs]
  | _ => cases w <;> simp [Value.same]

theorem sameItems_iff (vs ws : List Value) : sameItems vs ws ↔ vs = ws := by
  cases vs with
  | nil => cases ws <;> simp [sameItems]
  | cons v vs =>
    cases ws with
    | nil => simp [sameItems]
    | cons w ws => simp [sameItems, Value.same_iff v, sameItems_iff vs]

theorem sameEntries_iff (vs ws : List (String × Value)) : sameEntries vs ws ↔ vs = ws := by
  cases vs with
  | nil => cases ws <;> simp [sameEntries]
  | cons v vs =>
    cases ws with
    | nil => simp [sameEntries]
    | cons w ws =>
      simp [sameEntries, Value.same_iff v.2, sameEntries_iff vs, Prod.ext_iff]

end

instance : DecidableEq Value := fun v w => decidable_of_iff _ (Value.same_iff v w)

end Argon2Native.Toml
