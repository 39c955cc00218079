import Argon2Native.Limits
import Argon2Native.Variant
/-!
Settings: where the native library lives, how much output may be allocated, and the default hash
parameters. Every setting may be unset, and so may each of the three tables.

Settings are layered: in a merge the upper layer wins wherever it sets a value.
-/
namespace Argon2Native.Config

structure LibraryTable where
  dir : Option Path := none
  fallbackDir : Option Path := none
  deriving DecidableEq

structure LimitsTable where
  maxOutputLength : Option Nat := none
  deriving DecidableEq

structure DefaultsTable where
  timeCost : Option UInt32 := none
  memoryCost : Option UInt32 := none
  parallelism : Option UInt32 := none
  outputLength : Option Nat := none
  variant : Option String := none
  deriving DecidableEq

structure Settings where
  library : Option LibraryTable := none
  limits : Option LimitsTable := none
  defaults : Option DefaultsTable := none
  deriving DecidableEq

def LibraryTable.merge (base top : LibraryTable) : LibraryTable where
  dir := top.dir.or base.dir
  fallbackDir := top.fallbackDir.or base.fallbackDir

def LimitsTable.merge (base top : LimitsTable) : LimitsTable where
  maxOutputLength := top.maxOutputLength.or base.maxOutputLength

def DefaultsTable.merge (base top : DefaultsTable) : DefaultsTable where
  timeCost := top.timeCost.or base.timeCost
  memoryCost := top.memoryCost.or base.memoryCost
  parallelism := top.parallelism.or base.parallelism
  outputLength := top.outputLength.or base.outputLength
  variant := top.variant.or base.variant

namespace Settings

def empty : Settings := {}

def libraryDir? (s : Settings) : Option Path := s.library.bind (·.dir)
def fallbackDir? (s : Settings) : Option Path := s.library.bind (·.fallbackDir)
def maxOutputLength? (s : Settings) : Option Nat := s.limits.bind (·.maxOutputLength)
def timeCost? (s : Settings) : Option UInt32 := s.defaults.bind (·.timeCost)
def memoryCost? (s : Settings) : Option UInt32 := s.defaults.bind (·.memoryCost)
def parallelism? (s : Settings) : Option UInt32 := s.defaults.bind (·.parallelism)
def outputLength? (s : Settings) : Option Nat := s.defaults.bind (·.outputLength)
def variant? (s : Settings) : Option String := s.defaults.bind (·.variant)

def merge (base top : Settings) : Settings where
  library := base.library.merge .merge top.library
  limits := base.limits.merge .merge top.limits
  defaults := base.defaults.merge .merge top.defaults

def mergeAll (layers : List Settings) : Settings := layers.foldl merge empty

def setLibraryDir (s : Settings) (dir : Path) : Settings :=
  { s with library := some { s.library.getD {} with dir := some dir } }

def setMaxOutputLength (s : Settings) (n : Nat) : Settings :=
  { s with limits := some { s.limits.getD {} with maxOutputLength := some n } }

def setVariant (s : Settings) (name : String) : Settings :=
  { s with defaults := some { s.defaults.getD {} with variant := some name } }

def anchorTo (base : Path) (s : Settings) : Settings :=
  let anchor (dir : Path) : Path := if dir.isAbsolute then dir else base.join dir
  { s with library := s.library.map fun table =>
      { dir := table.dir.map anchor, fallbackDir := table.fallbackDir.map anchor } }

end Settings

/-- A ceiling must leave room for the shortest output and fit the native length. -/
def ceilingFault? (n : Nat) : Option Fault :=
  if leastOutputLength ≤ n ∧ n ≤ mostOutputLength then none
  else some (.outsideRange leastOutputLength mostOutputLength n)

def costFault? (cost : UInt32) : Option Fault := if cost = 0 then some .belowOne else none

def lengthFault? (ceiling : Option Nat) (n : Nat) : Option Fault :=
  if n < leastOutputLength then some (.belowLeast leastOutputLength n)
  else match ceiling with
    | some most => if most < n then some (.overCeiling most) else none
    | none => none

def variantFault? (name : String) : Option Fault :=
  if (Variant.named? name).isSome then none else some (.noVariant name)

namespace Settings

/-- The faults of the settings, each with its field, in the order in which they are reported. -/
def faults (s : Settings) : List (String × Fault) :=
  [("limits.max_output_len", s.maxOutputLength?.bind ceilingFault?),
   ("defaults.time_cost", s.timeCost?.bind costFault?),
   ("defaults.memory_cost", s.memoryCost?.bind costFault?),
   ("defaults.parallelism", s.parallelism?.bind costFault?),
   ("defaults.output_len", s.outputLength?.bind (lengthFault? s.maxOutputLength?)),
   ("defaults.variant", s.variant?.bind variantFault?)].filterMap
  fun (field, fault?) => fault?.map (field, ·)

def validate (s : Settings) : Except Failure Unit :=
  match s.faults with
  | [] => .ok ()
  | (field, fault) :: _ => .error (.invalid field fault)

end Settings
end Argon2Native.Config
