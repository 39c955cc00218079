import Argon2Native.Config.Environment
import Argon2Native.Config.Schema
import Argon2Native.Host
/-!
Loading settings from their three sources: the user's file, the project's file, which is the first
one on the way up from a directory, and the environment.
-/
namespace Argon2Native.Config

def projectFile : Path := Path.ofText "argon2.toml"

namespace Settings

def load (host : Host) (file : Path) : Except Failure Settings := do
  let text ← host.readText file
  let settings ← parse file text
  let settings := match file.parent? with
    | some base => settings.anchorTo base
    | none => settings
  settings.validate
  return settings

end Settings

structure Loaded where
  settings : Settings
  source : Option Path
  deriving DecidableEq

def userFile (host : Host) : Except Failure Path :=
  match host.home? with
  | some home => .ok ((home.join (Path.ofText ".argon2")).join (Path.ofText "config.toml"))
  | none => .error .noHome

/-- The nearest project file, by the text of the directory's path. -/
def findProjectFile (host : Host) (directory : Path) : Option Path :=
  directory.findAncestor? fun ancestor =>
    let file := ancestor.join projectFile
    if host.isFile file then some file else none

structure Loader where
  /-- The user's file, kept once it is known. -/
  userPath : Option Path := none
  deriving DecidableEq

namespace Loader

def settled (l : Loader) (host : Host) : Loader :=
  match l.userPath with
  | some _ => l
  | none => ⟨(userFile host).toOption⟩

def loadUser (l : Loader) (host : Host) : Except Failure Settings :=
  match (l.settled host).userPath with
  | some path => if host.exists? path then Settings.load host path else .ok .empty
  | none => .ok .empty

def layered (l : Loader) (host : Host) (source : Option Path) : Except Failure Loaded := do
  let user ← l.loadUser host
  let settings ← match source with
    | some file => user.merge <$> Settings.load host file
    | none => .ok user
  return { settings := ← settings.withEnvironment host.environment, source }

def loadDirectory (l : Loader) (host : Host) (directory : Path) :
    Except Failure Loaded × Loader :=
  (l.layered host (findProjectFile host directory), l.settled host)

def loadFile (l : Loader) (host : Host) (file : Path) : Except Failure Loaded × Loader :=
  (l.layered host (some file), l.settled host)

def loadEnvironment (host : Host) : Except Failure Loaded := do
  return { settings := ← Settings.empty.withEnvironment host.environment, source := none }

end Loader
end Argon2Native.Config
