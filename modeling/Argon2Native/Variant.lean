/-!
The three flavours of the hash function. Encoded strings and files of settings name one exactly;
a caller may write it in any ASCII case, and an environment variable in any case.

Main statement: `named?_eq_some_iff`, each variant has one exact name.
-/
namespace Argon2Native

inductive Variant where
  | argon2d
  | argon2i
  | argon2id
  deriving DecidableEq

namespace Variant

def all : List Variant := [.argon2d, .argon2i, .argon2id]

def code : Variant → UInt32
  | .argon2d => 0
  | .argon2i => 1
  | .argon2id => 2

def ofCode? (code : UInt32) : Option Variant := all.find? (·.code = code)

def name : Variant → String
  | .argon2d => "argon2d"
  | .argon2i => "argon2i"
  | .argon2id => "argon2id"

def label (v : Variant) : String := v.name.capitalize

def named? (name : String) : Option Variant := all.find? (·.name = name)

theorem ofCode?_code (v : Variant) : ofCode? v.code = some v := by cases v <;> rfl

theorem named?_name (v : Variant) : named? v.name = some v := by cases v <;> decide

theorem named?_eq_some_iff {s : String} {v : Variant} : named? s = some v ↔ s = v.name := by
  constructor
  · intro h
    simpa [eq_comm] using List.find?_some h
  · rintro rfl; exact named?_name v

end Variant
end Argon2Native
