import Argon2Native.Hasher
import Argon2Native.Native.Resolver
import Argon2Native.WriteOnce
/-!
Hashers bound to a library of the host: the one that settings lead to, and the one that the whole
process shares. The shared handle is installed at the start, or resolved from the environment at its
first use; a resolution that fails is tried again at the next use.
-/
namespace Argon2Native.Native

abbrev SharedHandle := WriteOnce Handle

namespace SharedHandle

instance : WriteOnce.Interruptible Failure where
  interrupts _ := false

def acquire (cell : SharedHandle) (host : Host) : Except Failure Handle × SharedHandle :=
  let (reply, cell) := cell.getOrInit fun _ =>
    (Resolver.ofEnvironment host.environment).resolve host
  (reply.result, cell)

def held (cell : SharedHandle) (host : Host) : Host :=
  match cell.get? with
  | some { entry, path := some path } => host.keep path entry
  | _ => host

end SharedHandle
end Argon2Native.Native

namespace Argon2Native.Hasher

def ofSettings (host : Host) (settings : Config.Settings) : Except Failure Hasher := do
  let handle ← (Native.Resolver.ofSettings host.environment settings).resolve host
  (ofHandle handle).configured settings

def shared (cell : Native.SharedHandle) (host : Host) :
    Except Failure Hasher × Native.SharedHandle :=
  let (handle, cell) := cell.acquire host
  (ofHandle <$> handle, cell)

end Argon2Native.Hasher
