import Argon2Native.Host
/-!
Loading libraries: what a path gives, and what a process remembers of a library that it keeps.

A path may hold tokens: a dollar sign and a word, or a word in braces, stand for a directory or a
part of one. A word ends where no letter, digit or underscore follows, and a dollar sign before
anything else is just a dollar sign.
-/
namespace Argon2Native

inductive Token where
  | origin
  | platform
  | lib
  deriving DecidableEq

namespace Token

def all : List Token := [.origin, .platform, .lib]

def word : Token → Bytes
  | .origin => Bytes.ofText "ORIGIN"
  | .platform => Bytes.ofText "PLATFORM"
  | .lib => Bytes.ofText "LIB"

def value? (directory : Option Bytes) : Token → Option Bytes
  | .origin => directory
  | .platform => some (Bytes.ofText "x86_64")
  | .lib => some (Bytes.ofText "lib/x86_64-linux-gnu")

def isWordOctet (b : UInt8) : Bool := (Char.ofNat b.toNat).isAlphanum || b = 0x5F

def extent? (after : Bytes) (token : Token) : Option Nat :=
  let braced := after.head? = some 0x7B
  let body := if braced then after.tail else after
  let next := (body.drop token.word.length).head?
  if token.word.isPrefixOf body ∧ (braced → next = some 0x7D) ∧ ¬ next.any isWordOctet then
    some (token.word.length + if braced then 2 else 0)
  else none

def expand (directory : Option Bytes) : Bytes → Option Bytes
  | [] => some []
  | b :: rest =>
    if b = 0x24 then
      match all.findSome? fun token => (extent? rest token).map (token, ·) with
      | some (token, extent) => do
        return (← value? directory token) ++ (← expand directory (rest.drop extent))
      | none => (expand directory rest).map (b :: ·)
    else (expand directory rest).map (b :: ·)
termination_by name => name.length
decreasing_by all_goals simp only [List.length_drop, List.length_cons]; omega

end Token
end Argon2Native

namespace Argon2Native.Host

/-- Libraries that are found by name on every machine; none exports the entry point. -/
def systemLibraries : List String :=
  ["libc.so.6", "libm.so.6", "libgcc_s.so.1", "libdl.so.2", "libpthread.so.0", "librt.so.1",
   "libutil.so.1", "libresolv.so.2", "ld-linux-x86-64.so.2", "linux-vdso.so.1"]

/-- The name that the loader is given. A zero octet may end it, and is dropped; none may stand
elsewhere. -/
def loaderName? (path : Path) : Option Bytes :=
  let name := if path.octets.getLast? = some 0 then path.octets.dropLast else path.octets
  if name.contains 0 then none else some name

def spelledOut? (host : Host) (name : Bytes) : Option Path :=
  if name.contains Path.slash then
    (Token.expand (host.executableDirectory.map Path.octets) name).map Path.mk
  else none

def libraryFile? (host : Host) (name : Bytes) : Option (Location × Option Native.EntryPoint) := do
  match host.tree.find host.workingDirectory (← host.spelledOut? name) with
  | .ok (location, .library entryPoint) => return (location, entryPoint)
  | _ => none

def keptFor? (host : Host) (name : Bytes) : Option KeptLibrary :=
  host.kept.filter fun library => name ∈ library.names ∨
    (host.libraryFile? name).any fun (location, _) => library.place = some location

/-- The entry point, if any, of the library that loading `path` gives; none if nothing loads.
The empty name is the running program, which exports no entry point. -/
def load? (host : Host) (path : Path) : Option (Option Native.EntryPoint) := do
  let name ← loaderName? path
  if name = [] ∨ name ∈ systemLibraries.map Bytes.ofText then return none
  match host.keptFor? name with
  | some library => return some library.entryPoint
  | none => return (← host.libraryFile? name).2

def learn (host : Host) (path : Path) : Host :=
  match loaderName? path with
  | some name =>
    match host.keptFor? name with
    | some library => { host with kept := some { library with names := name :: library.names } }
    | none => host
  | none => host

def keep (host : Host) (path : Path) (entryPoint : Native.EntryPoint) : Host :=
  match host.kept, loaderName? path with
  | none, some name =>
    let names := name :: ((host.spelledOut? name).map Path.octets).toList
    let place := (host.libraryFile? name).map (·.1)
    { host with kept := some { entryPoint, names, place } }
  | _, _ => host

end Argon2Native.Host
