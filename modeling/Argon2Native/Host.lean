import Argon2Native.Config.Environment
import Argon2Native.Host.FileTree
/-!
The machine as this library sees it: files, environment, the directories of the process, and the
library that the process keeps loaded.
-/
namespace Argon2Native

/-- A library that stays loaded. It answers to every name that has led to it, and to the file it
came from as long as that stands. -/
structure KeptLibrary where
  entryPoint : Native.EntryPoint
  names : List Bytes
  place : Option Location

structure Host where
  tree : FileTree
  environment : Environment
  workingDirectory : Location
  /-- The home directory of the account, for when the environment names none. -/
  accountHome : Option Path
  executableDirectory : Option Path
  kept : Option KeptLibrary := none

namespace Host

def entry? (host : Host) (path : Path) : Except Astray Entry :=
  (host.tree.find host.workingDirectory path).map (·.2)

def exists? (host : Host) (path : Path) : Bool := (host.entry? path).isOk

def isFile (host : Host) (path : Path) : Bool :=
  match host.entry? path with
  | .ok (.file _) | .ok (.library _) => true
  | _ => false

def readText (host : Host) (path : Path) : Except Config.Failure String :=
  match host.entry? path with
  | .ok (.file content) =>
    match Bytes.text? content with
    | some s => .ok s
    | none => .error (.unreadable .notText)
  | .ok (.library _) => .error (.unreadable .notText)
  | .ok (.directory _) => .error (.unreadable .isDirectory)
  | .error .throughFile => .error (.unreadable .notDirectory)
  | .error .nameTooLong => .error (.unreadable .nameTooLong)
  | .error .zeroInName => .error (.unreadable .zeroInName)
  | .error .missing => .error (.missing path)

def home? (host : Host) : Option Path :=
  ((host.environment.octets? "HOME").map Path.mk).or host.accountHome

/-- The host with other files. A working directory that is gone becomes an orphan, and a kept
library loses its place when no library stands there. -/
def withTree (host : Host) (tree : FileTree) : Host :=
  let kept := host.kept.map fun library =>
    { library with place := library.place.filter fun location =>
        (tree.entry? location).any Entry.isLibrary }
  if (tree.entry? host.workingDirectory).isSome then { host with tree, kept }
  else
    let workingDirectory := host.workingDirectory.dropLast ++ [FileTree.orphan]
    { host with tree := tree.put workingDirectory (.directory []), workingDirectory, kept }

def makeDirectory (host : Host) (path : Path) : Host :=
  host.withTree (host.tree.makeDirectory host.workingDirectory path)

def write (host : Host) (path : Path) (entry : Entry) : Host :=
  host.withTree (host.tree.write host.workingDirectory path entry)

/-- Removes a file, or a directory with all below it. A directory that is spelled by its dots loses
what is below it but stays itself. -/
def remove (host : Host) (path : Path) : Host :=
  match host.tree.find host.workingDirectory path with
  | .ok (location, _) =>
    let last := ((FileTree.pieces path).filter (· ≠ [])).getLast?
    host.withTree <|
      if last = some [Path.dot] ∨ last = some [Path.dot, Path.dot] then host.tree.clear location
      else host.tree.remove location
  | .error _ => host

end Host
end Argon2Native
