import Argon2Native.Native.Call
import Argon2Native.Sha256
/-!
Functions that keep the contract of the native one without its cost, for use in the process
itself: the argument checks with their statuses, output that depends on every argument, and the
two forms of encoded text.
-/
namespace Argon2Native.Native

structure Script where
  status : Int32 := 0
  /-- Repeated to the length of the hash buffer, which stays zero if there are none. -/
  fill : Bytes := []
  encoded : Option Bytes := none

def cycle (pattern : Bytes) (n : Nat) : Bytes :=
  let octets := pattern.toArray
  (List.range n).map fun i => octets.getD (i % octets.size) 0

def scripted (script : Script) : EntryPoint := fun call =>
  { status := script.status
    hash := cycle script.fill call.hashLength
    encoded := script.encoded.getD [] }

def argumentStatus (call : Call) : Status :=
  -- the order is that of the native function, and shows where several arguments are wrong
  if call.hashLength < 4 then .outputTooShort
  else if call.salt.length < 8 then .saltTooShort
  else if call.timeCost < 1 then .timeTooSmall
  else if call.parallelism < 1 then .lanesTooFew
  else if call.memoryCost.toNat < 8 * call.parallelism.toNat then .memoryTooLittle
  else if (Variant.ofCode? call.variantCode).isNone then .incorrectType
  else .ok

def blockMessage (call : Call) (i : Nat) : Bytes :=
  Bytes.littleEndian 8 i ++ Bytes.littleEndian 8 call.hashLength ++
  Bytes.littleEndian 4 call.timeCost.toNat ++ Bytes.littleEndian 4 call.memoryCost.toNat ++
  Bytes.littleEndian 4 call.parallelism.toNat ++ Bytes.littleEndian 4 call.variantCode.toNat ++
  Bytes.littleEndian 8 call.password.length ++ call.password ++
  Bytes.littleEndian 8 call.salt.length ++ call.salt

def derive (call : Call) : Bytes :=
  ((List.range ((call.hashLength + 31) / 32)).flatMap fun i =>
    Sha256.digest (blockMessage call i)).take call.hashLength

def standIn (form : Variant → Variant × Option UInt32) : EntryPoint := fun call =>
  match argumentStatus call, Variant.ofCode? call.variantCode with
  | .ok, some variant =>
    let hash := derive call
    let text := EncodedHash.render
      { variant := (form variant).1, version := (form variant).2, memoryCost := call.memoryCost,
        timeCost := call.timeCost, parallelism := call.parallelism, salt := call.salt, hash }
    match call.encodedLength? with
    | none => { status := 0, hash }
    | some size =>
      if size < text.utf8ByteSize + 1 then { status := Status.code .encodingFail, hash }
      else { status := 0, hash, encoded := Bytes.ofText text ++ [0] }
  | status, _ => { status := status.code }

/-- Builds without a version tag every text as argon2i. -/
def unversioned : EntryPoint := standIn fun _ => (.argon2i, none)

def versioned : EntryPoint := standIn fun variant => (variant, some EncodedHash.referenceVersion)

def undocumented : EntryPoint := scripted { status := 99, fill := [0x5A] }

def summing : EntryPoint := fun call =>
  if call.salt.length < 8 then { status := Status.code .saltTooShort }
  else
    let total (octets : Bytes) : Nat := octets.foldl (· + ·.toNat) 0
    let seed := call.timeCost.toNat + call.memoryCost.toNat + call.parallelism.toNat +
      call.variantCode.toNat + total call.password + total call.salt
    { status := 0
      hash := (List.range call.hashLength).map fun i => (seed + 7 * i).toUInt8
      encoded := Bytes.ofText "LIB" ++ [0] }

end Argon2Native.Native
