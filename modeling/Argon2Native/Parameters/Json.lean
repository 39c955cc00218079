import Argon2Native.Parameters
import Argon2Native.Json.Reader
/-!
Hash parameters as JSON: an object of any of the five fields, or an array of the first of them in
order. What is not given is standard; an unknown field is ignored, and a field given twice refused.
-/
namespace Argon2Native.Parameters

open Json (Value Member)

def fieldNames : List String := ["time_cost", "memory_cost", "parallelism", "output_len", "variant"]

structure Found where
  timeCost : Option UInt32 := none
  memoryCost : Option UInt32 := none
  parallelism : Option UInt32 := none
  outputLength : Option Nat := none
  variant : Option Variant := none

def natural? (bound : Nat) : Value → Option Nat
  | .number n => n.natural?.filter (· < bound)
  | _ => none

def word? (v : Value) : Option UInt32 := (natural? UInt32.size v).map Nat.toUInt32

def variant? : Value → Option Variant
  | .string name | .object [(name, .null)] => (Utf16.text? name).bind Variant.named?
  | _ => none

def once {α : Type} (slot : Option α) (value : Option α) : Option (Option α) :=
  match slot with
  | some _ => none
  | none => value.map some

def Found.add (f : Found) (member : Member) : Option Found := do
  let v := member.2
  -- a key must be text, also one that is ignored
  match ← Utf16.text? member.1 with
  | "time_cost" => return { f with timeCost := ← once f.timeCost (word? v) }
  | "memory_cost" => return { f with memoryCost := ← once f.memoryCost (word? v) }
  | "parallelism" => return { f with parallelism := ← once f.parallelism (word? v) }
  | "output_len" => return { f with outputLength := ← once f.outputLength (natural? UInt64.size v) }
  | "variant" => return { f with variant := ← once f.variant (variant? v) }
  | _ => return f

def Found.parameters (f : Found) : Parameters where
  timeCost := f.timeCost.getD standard.timeCost
  memoryCost := f.memoryCost.getD standard.memoryCost
  parallelism := f.parallelism.getD standard.parallelism
  outputLength := f.outputLength.getD standard.outputLength
  variant := f.variant.getD standard.variant

def ofMembers? (members : List Member) : Option Parameters :=
  (members.foldlM Found.add {}).map Found.parameters

def ofJson? : Value → Option Parameters
  | .object members => ofMembers? members
  | .array items =>
    if items.length ≤ fieldNames.length then
      ofMembers? ((fieldNames.map Utf16.ofText).zip items)
    else none
  | _ => none

def parse? (s : String) : Option Parameters := (Json.parse? s).bind ofJson?

def naturalJson (n : Nat) : Value := .number { whole := n }

def toMembers (p : Parameters) : List Member :=
  (fieldNames.map Utf16.ofText).zip
    [naturalJson p.timeCost.toNat, naturalJson p.memoryCost.toNat, naturalJson p.parallelism.toNat,
     naturalJson p.outputLength, .string (Utf16.ofText p.variant.name)]

def toJson (p : Parameters) : Value := .object p.toMembers

def serialize (p : Parameters) : String := String.ofList (Json.print p.toJson)

end Argon2Native.Parameters
