import Argon2Native.EncodedHash
import Argon2Native.Request
import Argon2Native.Text.Utf8
/-!
One call of the native hashing function: what it is given, what it writes, and what is read back.

The caller owns both buffers and zeroes them, so whatever the function writes, a buffer keeps its
size, and octets past what was written are zero.

A function is bound as a handle, with the library file it came from. A run is a computation that may
fail and may call it; it keeps every call that was made before it ended, also one that ended in a
failure.
-/
namespace Argon2Native

namespace Native

def entrySymbol : String := "argon2_hash"

structure Call where
  timeCost : UInt32
  memoryCost : UInt32
  parallelism : UInt32
  password : Bytes
  salt : Bytes
  hashLength : Nat
  /-- The size of the buffer for the encoded hash; no buffer is given where there is no size. -/
  encodedLength? : Option Nat
  variantCode : UInt32
  deriving DecidableEq

/-- The status, and the octets written to the start of each buffer. -/
structure Answer where
  status : Int32
  hash : Bytes := []
  encoded : Bytes := []

abbrev EntryPoint := Call → Answer

end Native

structure HashResult where
  raw : Bytes
  encoded : Option String
  deriving DecidableEq

namespace Native

def Call.ofRequest (request : Request) (withEncoded : Bool) : Call :=
  let p := request.parameters
  { timeCost := p.timeCost
    memoryCost := p.memoryCost
    parallelism := p.parallelism
    password := request.password
    salt := request.salt
    hashLength := p.outputLength
    encodedLength? :=
      if withEncoded then
        some (EncodedHash.bufferLength p.variant p.timeCost p.memoryCost p.parallelism
          request.salt.length p.outputLength)
      else none
    variantCode := p.variant.code }

/-- The text in a buffer ends at its first zero octet; without one, or if it is not UTF-8, the
native encoder is taken to have failed. -/
def readText (buffer : Bytes) : Except Failure String :=
  match (buffer.beforeNul?).bind Bytes.text? with
  | some s => .ok s
  | none => .error (.native .encodingFail)

def Call.read (call : Call) (answer : Answer) : Except Failure HashResult := do
  (Status.ofCode answer.status).check
  let encoded ← match call.encodedLength? with
    | some size => some <$> readText (Bytes.fill size answer.encoded)
    | none => .ok none
  return { raw := Bytes.fill call.hashLength answer.hash, encoded }

structure Handle where
  entry : EntryPoint
  /-- Absent for a function of the process itself. -/
  path : Option Path

namespace Handle

def ofEntry (entry : EntryPoint) : Handle := ⟨entry, none⟩

def describe (h : Handle) : String :=
  "NativeHandle \x7b path: " ++ (match h.path with
    | some path => "Some(" ++ Quoted.render path.octets ++ ")"
    | none => "None") ++ ", .. \x7d"

end Handle

structure Run (α : Type) where
  calls : List Call
  result : Except Failure α

namespace Run

variable {α β : Type}

def ofExcept (result : Except Failure α) : Run α := ⟨[], result⟩

def bind (r : Run α) (f : α → Run β) : Run β :=
  match r.result with
  | .ok a => ⟨r.calls ++ (f a).calls, (f a).result⟩
  | .error e => ⟨r.calls, .error e⟩

instance : Monad Run where
  pure a := ofExcept (.ok a)
  bind := bind

instance : MonadLift (Except Failure) Run := ⟨ofExcept⟩

def invoke (entry : EntryPoint) (call : Call) : Run HashResult :=
  ⟨[call], call.read (entry call)⟩

@[simp] theorem bind_eq (r : Run α) (f : α → Run β) : r >>= f = r.bind f := rfl

@[simp] theorem pure_eq (a : α) : (pure a : Run α) = ofExcept (.ok a) := rfl

@[simp] theorem liftM_eq (result : Except Failure α) : (liftM result : Run α) = ofExcept result :=
  rfl

@[simp] theorem calls_ofExcept (result : Except Failure α) : (ofExcept result).calls = [] := rfl

@[simp] theorem result_ofExcept (result : Except Failure α) : (ofExcept result).result = result :=
  rfl

@[simp] theorem bind_ofExcept_ok (a : α) (f : α → Run β) :
    (ofExcept (.ok a) : Run α).bind f = f a := by
  simp [bind, ofExcept]

@[simp] theorem bind_ofExcept_error (e : Failure) (f : α → Run β) :
    (ofExcept (.error e) : Run α).bind f = ofExcept (.error e) := rfl

theorem bind_map (r : Run α) (g : α → β) :
    (r.bind fun a => ofExcept (.ok (g a))) = ⟨r.calls, r.result.map g⟩ := by
  cases h : r.result <;> simp [bind, h, ofExcept, Except.map]

end Run

end Native
end Argon2Native
