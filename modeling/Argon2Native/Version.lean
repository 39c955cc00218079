import Argon2Native.Failure
/-!
This release and the platforms that it runs on, each with the file name of the native library.
-/
namespace Argon2Native

def version : String := "0.1.0"

inductive Platform where
  | linux
  | windows
  | apple
  deriving DecidableEq

namespace Platform

def table : List (String × Platform) :=
  [("linux", .linux), ("android", .linux), ("freebsd", .linux), ("netbsd", .linux),
   ("openbsd", .linux), ("dragonfly", .linux), ("solaris", .linux), ("illumos", .linux),
   ("windows", .windows), ("macos", .apple), ("ios", .apple)]

def currentOs : String := "linux"

def ofOs (os : String) : Except Failure Platform :=
  match table.lookup os with
  | some platform => .ok platform
  | none => .error (.unsupportedPlatform os)

def current : Except Failure Platform := ofOs currentOs

def label : Platform → String
  | .linux => "Linux"
  | .windows => "Windows"
  | .apple => "Apple"

def libraryFile : Platform → String
  | .linux => "libargon2.so"
  | .windows => "libargon2.dll"
  | .apple => "libargon2.dylib"

end Platform
end Argon2Native
