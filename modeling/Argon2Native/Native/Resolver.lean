import Argon2Native.Config.Environment
import Argon2Native.Host.Loading
import Argon2Native.Native.Call
import Argon2Native.Version
/-!
Finding the library: a search directory first, then a fallback directory, each joined with the
platform's file name.

Main statement: `verdict?_eq_some_iff`, when a path decides the search.
-/
namespace Argon2Native.Native

def Handle.ofLoaded (path : Path) : Option EntryPoint → Except Failure Handle
  | some entry => .ok ⟨entry, some path⟩
  | none => .error (.symbolNotFound path entrySymbol)

def Handle.bind? (host : Host) (path : Path) : Option (Except Failure Handle) :=
  (host.load? path).map (ofLoaded path)

def Handle.load (host : Host) (path : Path) : Except Failure Handle :=
  (bind? host path).getD (.error (.libraryNotFound path.display [path]))

structure Probe where
  isFile : Path → Bool
  /-- The entry point, if any, of the library that loading a path gives; none if nothing loads. -/
  load? : Path → Option (Option EntryPoint)

namespace Probe

def ofHost (host : Host) : Probe := ⟨host.isFile, host.load?⟩

def verdict? (probe : Probe) (path : Path) : Option (Except Failure Handle) :=
  if probe.isFile path then (probe.load? path).map (Handle.ofLoaded path) else none

variable {probe : Probe} {path : Path}

theorem verdict?_eq_none_iff :
    probe.verdict? path = none ↔ probe.isFile path = false ∨ probe.load? path = none := by
  unfold verdict?
  cases probe.isFile path <;> simp

theorem verdict?_eq_some_iff {result : Except Failure Handle} :
    probe.verdict? path = some result ↔ probe.isFile path = true ∧
      ∃ exported, probe.load? path = some exported ∧ Handle.ofLoaded path exported = result := by
  unfold verdict?
  cases probe.isFile path <;> simp

end Probe

structure Resolver where
  os : String := Platform.currentOs
  searchDir : Option Path := none
  fallbackDir : Option Path := none

namespace Resolver

def environmentDir? (env : Environment) : Option Path :=
  (env.octets? Config.libraryDirVariable).map Path.mk

def ofEnvironment (env : Environment) : Resolver where
  searchDir := environmentDir? env

def ofSettings (env : Environment) (settings : Config.Settings) : Resolver where
  -- the settings know a variable only as text, so its octets are looked at once more
  searchDir := (environmentDir? env).or settings.libraryDir?
  fallbackDir := settings.fallbackDir?

def candidates (r : Resolver) (host : Host) : Except Failure (List Path) := do
  let platform ← Platform.ofOs r.os
  let dirs := r.searchDir.toList ++ (r.fallbackDir.or host.executableDirectory).toList
  let files := dirs.map (·.join (Path.ofText platform.libraryFile))
  -- a directory given twice is tried once, however it is spelled
  return files.eraseDupsBy fun p q => decide (p.Same q)

def resolveBy (probe : Probe) (r : Resolver) (host : Host) : Except Failure Handle := do
  let platform ← Platform.ofOs r.os
  let candidates ← r.candidates host
  -- a library without the entry point ends the search as well
  match candidates.findSome? probe.verdict? with
  | some result => result
  | none => .error (.libraryNotFound platform.libraryFile candidates)

def resolve (r : Resolver) (host : Host) : Except Failure Handle :=
  r.resolveBy (.ofHost host) host

def resolved (r : Resolver) (host : Host) : Host :=
  match r.resolve host with
  | .ok { path := some path, .. } => host.learn path
  | _ => host

end Resolver
end Argon2Native.Native
