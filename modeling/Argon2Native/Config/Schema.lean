import Argon2Native.Config.Settings
import Argon2Native.Toml.Document
/-!
Settings as a TOML table. Every key must be a declared one and every value of its type; a table may
also be written as an array that gives all its values in order.
-/
namespace Argon2Native.Config

open Toml (Value Entries)

def text? : Value → Option String
  | .string s => some s
  | _ => none

def path? (v : Value) : Option Path := (text? v).map Path.ofText

def count? : Value → Option Nat
  | .integer n => if 0 ≤ n then some n.toNat else none
  | _ => none

def word? (v : Value) : Option UInt32 :=
  (count? v).bind fun n => if n < UInt32.size then some n.toUInt32 else none

/-- The value under a key: refused if it is there and does not read, unset if it is not there. -/
def entry? {α : Type} (entries : Entries) (key : String) (read? : Value → Option α) :
    Option (Option α) :=
  match entries.lookup key with
  | some v => (read? v).map some
  | none => some none

def KeysAmong (keys : List String) (entries : Entries) : Prop := ∀ e ∈ entries, e.1 ∈ keys

instance (keys : List String) (entries : Entries) : Decidable (KeysAmong keys entries) :=
  inferInstanceAs (Decidable (∀ e ∈ entries, e.1 ∈ keys))

def LibraryTable.ofToml? : Value → Option LibraryTable
  | .table entries => do
    guard (KeysAmong ["dir", "fallback_dir"] entries)
    return { dir := ← entry? entries "dir" path?
             fallbackDir := ← entry? entries "fallback_dir" path? }
  | .array (dir :: fallbackDir :: _) => do
    return { dir := ← path? dir, fallbackDir := ← path? fallbackDir }
  | _ => none

def LimitsTable.ofToml? : Value → Option LimitsTable
  | .table entries => do
    guard (KeysAmong ["max_output_len"] entries)
    return { maxOutputLength := ← entry? entries "max_output_len" count? }
  | .array (maxOutputLength :: _) => do return { maxOutputLength := ← count? maxOutputLength }
  | _ => none

def DefaultsTable.ofToml? : Value → Option DefaultsTable
  | .table entries => do
    guard (KeysAmong ["time_cost", "memory_cost", "parallelism", "output_len", "variant"] entries)
    return { timeCost := ← entry? entries "time_cost" word?
             memoryCost := ← entry? entries "memory_cost" word?
             parallelism := ← entry? entries "parallelism" word?
             outputLength := ← entry? entries "output_len" count?
             variant := ← entry? entries "variant" text? }
  | .array (timeCost :: memoryCost :: parallelism :: outputLength :: variant :: _) => do
    return { timeCost := ← word? timeCost
             memoryCost := ← word? memoryCost
             parallelism := ← word? parallelism
             outputLength := ← count? outputLength
             variant := ← text? variant }
  | _ => none

namespace Settings

def ofToml? : Value → Option Settings
  | .table entries => do
    guard (KeysAmong ["library", "limits", "defaults"] entries)
    return { library := ← entry? entries "library" LibraryTable.ofToml?
             limits := ← entry? entries "limits" LimitsTable.ofToml?
             defaults := ← entry? entries "defaults" DefaultsTable.ofToml? }
  | _ => none

def parse (origin : Path) (text : String) : Except Failure Settings :=
  match (Toml.parse? text).bind ofToml? with
  | some settings => .ok settings
  | none => .error (.malformed origin)

end Settings
end Argon2Native.Config
