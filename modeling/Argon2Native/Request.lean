import Argon2Native.Parameters
/-!
A hashing request: the octets that password and salt stand for, as callers give them, and the
parameters. No content of password or salt shows in the diagnostic texts.
-/
namespace Argon2Native

inductive Input where
  | text (s : String)
  | raw (octets : Bytes)
  /-- A string of the platform, such as an argument or a variable: text only if it is UTF-8. -/
  | platform (octets : Bytes)
  deriving DecidableEq

namespace Input

def normalize (field : String) : Input → Except Failure Bytes
  | .text s => .ok (Bytes.ofText s)
  | .raw octets => .ok octets
  | .platform octets =>
    if (Bytes.text? octets).isSome then .ok octets
    else .error (.invalidEncoding field .notUnicode)

def size : Input → Nat
  | .text s => s.utf8ByteSize
  | .raw octets | .platform octets => octets.length

def describe (input : Input) : String :=
  let form := match input with
    | .text _ => "Text"
    | .raw _ => "Raw"
    | .platform _ => "Os"
  form ++ "(<" ++ toString input.size ++ " bytes>)"

end Input

structure Request where
  password : Bytes
  salt : Bytes
  parameters : Parameters
  deriving DecidableEq

namespace Request

def ofInputs (password salt : Input) (parameters : Parameters) : Except Failure Request := do
  let password ← password.normalize "password"
  let salt ← salt.normalize "salt"
  return { password, salt, parameters }

def validate (request : Request) (limits : Limits) : Except Failure Unit :=
  request.parameters.validate limits

def describe (request : Request) : String :=
  "HashRequest \x7b password_len: " ++ toString request.password.length ++
  ", salt_len: " ++ toString request.salt.length ++
  ", options: " ++ request.parameters.describe ++ " \x7d"

end Request
end Argon2Native
