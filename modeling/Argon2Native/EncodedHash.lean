import Argon2Native.Parameters
import Argon2Native.Text.Base64
import Argon2Native.Text.Decimal
/-!
Encoded hashes: the text form of parameters, salt and hash,

    $<variant>[$v=<version>]$m=<memory>,t=<time>,p=<lanes>$<salt>$<hash>

with plain decimals and unpadded base64. `render` writes it, `parse` reads it back, and
`bufferLength` is the room that a writer needs.
-/
namespace Argon2Native

structure EncodedHash where
  variant : Variant
  version : Option UInt32
  memoryCost : UInt32
  timeCost : UInt32
  parallelism : UInt32
  salt : Bytes
  hash : Bytes
  deriving DecidableEq

namespace EncodedHash

def referenceVersion : UInt32 := 0x13

def renderField (key : List Char) (n : UInt32) : List Char := key ++ Decimal.render n.toNat

def versionKey : List Char := ['v', '=']
def memoryKey : List Char := ['m', '=']
def timeKey : List Char := ['t', '=']
def lanesKey : List Char := ['p', '=']

def renderCosts (e : EncodedHash) : List Char :=
  [','].intercalate [renderField memoryKey e.memoryCost, renderField timeKey e.timeCost,
    renderField lanesKey e.parallelism]

def segments (e : EncodedHash) : List (List Char) :=
  -- nothing stands before the first dollar sign
  [[], e.variant.name.toList] ++ (e.version.map (renderField versionKey)).toList ++
    [e.renderCosts, Base64.encode e.salt, Base64.encode e.hash]

def renderChars (e : EncodedHash) : List Char := ['$'].intercalate e.segments

def render (e : EncodedHash) : String := String.ofList e.renderChars

def parseField? (key field : List Char) : Option UInt32 :=
  if key.isPrefixOf field then Decimal.word? (field.drop key.length) else none

def parseCosts? (segment : List Char) : Option (UInt32 × UInt32 × UInt32) :=
  match segment.splitOn ',' with
  | [m, t, p] => do
    return (← parseField? memoryKey m, ← parseField? timeKey t, ← parseField? lanesKey p)
  | _ => none

def assemble? (name : List Char) (version : Option UInt32) (costs salt hash : List Char) :
    Option EncodedHash := do
  let variant ← Variant.named? (String.ofList name)
  let (memoryCost, timeCost, parallelism) ← parseCosts? costs
  let salt ← Base64.decode? salt
  let hash ← Base64.decode? hash
  return { variant, version, memoryCost, timeCost, parallelism, salt, hash }

def ofSegments? : List (List Char) → Option EncodedHash
  | [[], name, costs, salt, hash] => assemble? name none costs salt hash
  | [[], name, version, costs, salt, hash] => do
    assemble? name (some (← parseField? versionKey version)) costs salt hash
  | _ => none

def parse? (s : String) : Option EncodedHash := ofSegments? (s.toList.splitOn '$')

def parse (s : String) : Except Failure EncodedHash :=
  match parse? s with
  | some e => .ok e
  | none => .error (.native .decodingFail)

def parameters (e : EncodedHash) : Parameters where
  timeCost := e.timeCost
  memoryCost := e.memoryCost
  parallelism := e.parallelism
  outputLength := e.hash.length
  variant := e.variant

/-- Room for the text with the reference version, and for the zero octet that ends it. A text
without a version is shorter. -/
def bufferLength (variant : Variant) (timeCost memoryCost parallelism : UInt32)
    (saltLength outputLength : Nat) : Nat :=
  1 + variant.name.length + 3 + Decimal.digitCount referenceVersion.toNat +
  3 + Decimal.digitCount memoryCost.toNat + 3 + Decimal.digitCount timeCost.toNat +
  3 + Decimal.digitCount parallelism.toNat +
  1 + Base64.textLength saltLength + 1 + Base64.textLength outputLength + 1

/-- `bufferLength` in 64-bit words, where sums and products past the top wrap. -/
def bufferLengthWord (variant : Variant) (timeCost memoryCost parallelism : UInt32)
    (saltLength outputLength : UInt64) : UInt64 :=
  let digits (n : UInt32) : UInt64 := (Decimal.digitCount n.toNat).toUInt64
  1 + variant.name.length.toUInt64 + 3 + digits referenceVersion +
  3 + digits memoryCost + 3 + digits timeCost + 3 + digits parallelism +
  1 + Base64.textLengthWord saltLength + 1 + Base64.textLengthWord outputLength + 1

end EncodedHash
end Argon2Native
