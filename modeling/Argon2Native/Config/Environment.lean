import Argon2Native.Config.Settings
import Argon2Native.Text.Decimal
import Argon2Native.Text.Unicode
/-!
Environment variables and the settings that they give: the top layer. A value is any octets; a
variable set to nothing counts as unset, and where text is wanted one that holds none does too.
-/
namespace Argon2Native

structure Environment where
  value? : String → Option Bytes

namespace Environment

def empty : Environment := ⟨fun _ => none⟩

def set (env : Environment) (name : String) (value : Bytes) : Environment :=
  ⟨fun other => if other = name then some value else env.value? other⟩

def unset (env : Environment) (name : String) : Environment :=
  ⟨fun other => if other = name then none else env.value? other⟩

def octets? (env : Environment) (name : String) : Option Bytes :=
  (env.value? name).filter (· ≠ [])

def text? (env : Environment) (name : String) : Option String :=
  (env.octets? name).bind Bytes.text?

end Environment
end Argon2Native

namespace Argon2Native.Config

def libraryDirVariable : String := "ARGON2_LIB_DIR"
def maxOutputLengthVariable : String := "ARGON2_MAX_OUTPUT_LEN"
def variantVariable : String := "ARGON2_VARIANT"

def byteCount? (s : String) : Option Nat :=
  let cs := Blank.trim s.toList
  let digits := if cs.head? = some '+' then cs.tail else cs
  if digits ≠ [] ∧ digits.all Char.isDigit ∧ Decimal.value digits < UInt64.size then
    some (Decimal.value digits)
  else none

def readMaxOutputLength (s : String) : Except Failure Nat :=
  match byteCount? s with
  | none => .error (.invalid maxOutputLengthVariable (.noByteCount s))
  | some n =>
    match ceilingFault? n with
    | some fault => .error (.invalid maxOutputLengthVariable fault)
    | none => .ok n

def readVariant (s : String) : Except Failure String :=
  match variantFault? (Lowercase.full s) with
  | some fault => .error (.invalid variantVariable fault)
  | none => .ok (Lowercase.full s)

namespace Settings

def withEnvironment (s : Settings) (env : Environment) : Except Failure Settings := do
  let s := match env.text? libraryDirVariable with
    | some dir => s.setLibraryDir (Path.ofText dir)
    | none => s
  let s ← match env.text? maxOutputLengthVariable with
    | some value => s.setMaxOutputLength <$> readMaxOutputLength value
    | none => .ok s
  let s ← match env.text? variantVariable with
    | some value => s.setVariant <$> readVariant value
    | none => .ok s
  s.validate
  return s

end Settings
end Argon2Native.Config
