import Argon2Native.Native.Call
/-!
The hasher: one native function with limits, default parameters and the version it writes.

Every entry goes the same way: normalize the inputs, check the parameters, call once, translate the
status, read the buffers. Nothing is kept between calls.
-/
namespace Argon2Native

open Native (Handle Run)

structure Hasher where
  handle : Handle
  limits : Limits := .standard
  defaults : Parameters := .standard
  /-- The version that the library writes into encoded hashes, if it writes one. -/
  encodedVersion : Option UInt32 := none

namespace Hasher

def ofHandle (handle : Handle) : Hasher := { handle }

def withLimits (h : Hasher) (limits : Limits) : Hasher := { h with limits }
def withDefaults (h : Hasher) (defaults : Parameters) : Hasher := { h with defaults }
def withEncodedVersion (h : Hasher) (encodedVersion : Option UInt32) : Hasher :=
  { h with encodedVersion }

def configured (h : Hasher) (settings : Config.Settings) : Except Failure Hasher := do
  let limits ← match settings.maxOutputLength? with
    | some n => Limits.ofMax n
    | none => .ok h.limits
  let defaults ← Parameters.ofSettings settings
  return { h with limits, defaults }

def run (h : Hasher) (request : Request) (withEncoded : Bool) : Run HashResult := do
  request.validate h.limits
  Run.invoke h.handle.entry (.ofRequest request withEncoded)

def hash (h : Hasher) (password salt : Input) (parameters : Parameters) : Run HashResult := do
  h.run (← Request.ofInputs password salt parameters) false

def hashEncoded (h : Hasher) (password salt : Input) (parameters : Parameters) :
    Run HashResult := do
  h.run (← Request.ofInputs password salt parameters) true

def hashDefault (h : Hasher) (password salt : Input) : Run HashResult :=
  h.hash password salt h.defaults

def hashRaw (h : Hasher) (password salt : Input) (parameters : Parameters) : Run Bytes := do
  return (← h.hash password salt parameters).raw

/-- Two octet strings compared without leaving early, so that the time taken does not depend on
where they differ. -/
def sameOctets (a b : Bytes) : Bool :=
  a.length == b.length && ((a.zip b).foldl (fun diff (x, y) => diff ||| (x ^^^ y)) 0) == 0

def checkVersion (h : Hasher) (found : Option UInt32) : Except Failure Unit :=
  -- the library recomputes no version but its own
  if found = h.encodedVersion then .ok ()
  else .error (.invalidParameter "version" (.otherVersion found h.encodedVersion))

def verify (h : Hasher) (encoded : String) (password : Input) : Run Bool := do
  let expected ← EncodedHash.parse encoded
  h.checkVersion expected.version
  let result ← h.hash password (.raw expected.salt) expected.parameters
  return sameOctets result.raw expected.hash

def describe (h : Hasher) : String :=
  "Argon2 \x7b handle: " ++ h.handle.describe ++
  ", limits: Limits \x7b max_output_len: " ++ toString h.limits.maxOutputLength ++
  " \x7d, defaults: " ++ h.defaults.describe ++
  ", encoded_version: " ++ (match h.encodedVersion with
    | some v => "Some(" ++ toString v.toNat ++ ")"
    | none => "None") ++ " \x7d"

end Hasher
end Argon2Native
