import Argon2Native.Proofs.Agreement
import Argon2Native.Proofs.Nearest
import Argon2Native.Proofs.Overrides
import Mathlib.Data.List.Find
/-!
Where library directories are taken from. A directory that a file names is taken from where that
file is, before files are laid over each other, so it stays with the file that it came from.
Absolute paths are followed from the root; where they lead, and all that is loaded from them, does
not hang on the working directory.

Main statement: `library_anchored`.
-/
namespace Argon2Native

def Host.workingIn (host : Host) (location : Location) : Host :=
  { host with workingDirectory := location }

section absolute

variable {path : Path}

theorem FileTree.find_of_absolute (h : path.isAbsolute) (t : FileTree) (start start' : Location) :
    t.find start path = t.find start' path := by
  simp only [find, route, origin, h, if_true]

namespace Host

variable (host : Host) (location : Location)

theorem entry?_workingIn (h : path.isAbsolute) :
    Host.entry? (host.workingIn location) path = host.entry? path := by
  rw [ entry?, entry?, FileTree.find_of_absolute h _ _ host.workingDirectory]
  rfl

theorem exists?_workingIn (h : path.isAbsolute) :
    (host.workingIn location).exists? path = host.exists? path :=
  congrArg Except.isOk <| entry?_workingIn host location h

theorem isFile_workingIn (h : path.isAbsolute) :
    (host.workingIn location).isFile path = host.isFile path := by
  simp only [isFile, entry?_workingIn host location h]

theorem readText_workingIn (h : path.isAbsolute) :
    (host.workingIn location).readText path = host.readText path := by
  simp only [readText, entry?_workingIn host location h]

end Host
end absolute

namespace Config

inductive Anchored (base : Path) : Path → Path → Prop where
  | absolute {dir : Path} (h : dir.isAbsolute) : Anchored base dir dir
  | relative {dir : Path} (h : ¬dir.isAbsolute) : Anchored base dir (base.join dir)

theorem Anchored.isAbsolute {base dir place : Path} (hbase : base.isAbsolute)
    (h : Anchored base dir place) : place.isAbsolute := by
  cases h with
  | absolute h => exact h
  | relative h => rwa [Path.isAbsolute_join (by simpa using h)]

namespace Settings

structure AnchoredAt (base : Path) (written s : Settings) : Prop where
  libraryDir : Option.Rel (Anchored base) written.libraryDir? s.libraryDir?
  fallbackDir : Option.Rel (Anchored base) written.fallbackDir? s.fallbackDir?
  library : s.library.isSome = written.library.isSome
  limits : s.limits = written.limits
  defaults : s.defaults = written.defaults

def GivenBy (host : Host) (file : Path) (s : Settings) : Prop :=
  ∃ text written base, host.readText file = .ok text ∧ parse file text = .ok written ∧
    file.parent? = some base ∧ AnchoredAt base written s

structure LibraryAbsolute (s : Settings) : Prop where
  libraryDir : ∀ dir, s.libraryDir? = some dir → dir.isAbsolute
  fallbackDir : ∀ dir, s.fallbackDir? = some dir → dir.isAbsolute

variable {host : Host} {file base : Path} {written s : Settings}

theorem anchored_ite (base dir : Path) :
    Anchored base dir (if dir.isAbsolute then dir else base.join dir) := by
  by_cases h : dir.isAbsolute
  · rw [if_pos h]
    exact .absolute h
  · rw [if_neg h]
    exact .relative h

theorem anchoredAt_anchorTo (base : Path) (written : Settings) :
    AnchoredAt base written (written.anchorTo base) where
  libraryDir := by
    obtain ⟨_ | ⟨_ | dir, fallbackDir⟩, limits, defaults⟩ := written
    · exact .none
    · exact .none
    · exact .some (anchored_ite base dir)
  fallbackDir := by
    obtain ⟨_ | ⟨libraryDir, _ | dir⟩, limits, defaults⟩ := written
    · exact .none
    · exact .none
    · exact .some (anchored_ite base dir)
  library := Option.isSome_map
  limits := rfl
  defaults := rfl

theorem isAbsolute_of_rel {dir? place? : Option Path} (hbase : base.isAbsolute)
    (h : Option.Rel (Anchored base) dir? place?) : ∀ place, place? = some place → place.isAbsolute := by
  cases h with
  | none => exact nofun
  | some h =>
    rintro _ ⟨rfl⟩
    exact h.isAbsolute hbase

theorem AnchoredAt.libraryAbsolute (hbase : base.isAbsolute) (h : AnchoredAt base written s) :
    s.LibraryAbsolute :=
  ⟨isAbsolute_of_rel hbase h.libraryDir, isAbsolute_of_rel hbase h.fallbackDir⟩

theorem entry?_of_readText {text : String} (h : host.readText file = .ok text) :
    ∃ content, host.entry? file = .ok (.file content) := by
  unfold Host.readText at h
  split at h
  · next content he => exact ⟨content, he⟩
  all_goals cases h

/-- What can be read is no directory, so its path has a name, and what has a name has a parent. -/
theorem exists_parent_of_readText {text : String} (hf : file.isAbsolute)
    (h : host.readText file = .ok text) : ∃ base, file.parent? = some base := by
  cases hp : file.parent? with
  | some base => exact ⟨base, rfl⟩
  | none =>
    obtain ⟨content, he⟩ := entry?_of_readText h
    obtain ⟨⟨location, entry⟩, hfound, rfl⟩ := map_eq_ok_iff.mp he
    have hnames := Path.names_of_no_parent hp
    have hup : [Path.dot, Path.dot] ∉ FileTree.pieces file := by
      rw [FileTree.up_notMem_pieces_iff, hnames]
      exact List.not_mem_nil
    obtain ⟨-, -, rfl, hentry⟩ := FileTree.find_eq_ok hup hfound
    rw [hnames, FileTree.base, if_pos hf] at hentry
    cases hentry

theorem givenBy_of_load (hf : file.isAbsolute) (h : load host file = .ok s) : GivenBy host file s := by
  obtain ⟨text, htext, h⟩ := bind_eq_ok_iff.mp h
  obtain ⟨written, hwritten, h⟩ := bind_eq_ok_iff.mp h
  obtain ⟨base, hbase⟩ := exists_parent_of_readText hf htext
  obtain ⟨u, -, h⟩ := bind_eq_ok_iff.mp h
  simp only [hbase] at h
  cases h
  exact ⟨text, written, base, htext, hwritten, hbase, anchoredAt_anchorTo base written⟩

theorem GivenBy.libraryAbsolute (hf : file.isAbsolute) (h : GivenBy host file s) :
    s.LibraryAbsolute := by
  obtain ⟨text, written, base, -, -, hbase, hanchored⟩ := h
  exact hanchored.libraryAbsolute ((Path.isAbsolute_of_parent? hbase).trans hf)

theorem load_workingIn (hf : file.isAbsolute) (host : Host) (location : Location) :
    load (host.workingIn location) file = load host file := by
  simp only [load, Host.readText_workingIn host location hf]

theorem ofFile_workingIn {source : Option Path} (h : ∀ file, source = some file → file.isAbsolute)
    (host : Host) (location : Location) :
    ofFile (host.workingIn location) source = ofFile host source := by
  cases source with
  | none => rfl
  | some file => exact load_workingIn (h file rfl) host location

def LayerOf (host : Host) : Option Path → Settings → Prop
  | some file, s => GivenBy host file s
  | none, s => s = empty

theorem layerOf_ofFile {source : Option Path} (h : ∀ file, source = some file → file.isAbsolute)
    (hs : ofFile host source = .ok s) : LayerOf host source s := by
  cases source with
  | none => exact (Except.ok.inj hs).symm
  | some file => exact givenBy_of_load (h file rfl) hs

end Settings

section search

variable {host : Host} {directory file : Path}

theorem isAbsolute_of_mem_ancestors (hd : directory.isAbsolute)
    (h : file ∈ directory.ancestors.map (·.join projectFile)) : file.isAbsolute := by
  obtain ⟨above, habove, rfl⟩ := List.mem_map.mp h
  rw [Path.isAbsolute_join isRelative_projectFile]
  exact (Path.above_of_mem_ancestors habove).isAbsolute.trans hd

theorem isAbsolute_of_projectSource (hd : directory.isAbsolute)
    (h : projectSource host directory = some file) : file.isAbsolute :=
  isAbsolute_of_mem_ancestors hd (List.mem_of_find?_eq_some h)

theorem projectSource_workingIn (hd : directory.isAbsolute) (host : Host) (location : Location) :
    projectSource (host.workingIn location) directory = projectSource host directory :=
  List.find?_congr fun _ hfile =>
    Host.isFile_workingIn host location (isAbsolute_of_mem_ancestors hd hfile)

end search

namespace Loader

variable {l : Loader} {host : Host} {source : Option Path} {loaded : Loaded}

def UserAbsolute (l : Loader) (host : Host) : Prop :=
  ∀ user, (l.settled host).userPath = some user → user.isAbsolute

theorem UserAbsolute.userSource (hu : l.UserAbsolute host) {user : Path}
    (h : l.userSource host = some user) : user.isAbsolute := by
  rw [Loader.userSource, ← userPath_settled, Option.filter_eq_some_iff] at h
  exact hu user h.1

theorem userSource_workingIn (hu : l.UserAbsolute host) (location : Location) :
    l.userSource (host.workingIn location) = l.userSource host := by
  have hpath : l.userPath.or (userFile (host.workingIn location)).toOption =
      (l.settled host).userPath := (userPath_settled l host).symm
  rw [userSource, userSource, hpath, ← userPath_settled]
  cases hs : (l.settled host).userPath with
  | none => rfl
  | some user => simp only [Option.filter, Host.exists?_workingIn host location (hu user hs)]

theorem layered_workingIn (hu : l.UserAbsolute host)
    (hs : ∀ file, source = some file → file.isAbsolute) (location : Location) :
    l.layered (host.workingIn location) source = l.layered host source := by
  refine layered_congr ?_ (Settings.ofFile_workingIn hs host location) fun _ => rfl
  rw [userSource_workingIn hu]
  exact Settings.ofFile_workingIn (fun _ => hu.userSource) host location

/-- Where the library directories come from: the environment's as it is written there, or that of
the project's file, or that of the user's, each anchored where its file is. -/
def LibraryFrom (host : Host) (userSource source : Option Path) (s : Settings) : Prop :=
  ∃ user project, Settings.LayerOf host userSource user ∧
    Settings.LayerOf host source project ∧
    s.libraryDir? = ((host.environment.text? libraryDirVariable).map Path.ofText).or
      (project.libraryDir?.or user.libraryDir?) ∧
    s.fallbackDir? = project.fallbackDir?.or user.fallbackDir?

theorem libraryFrom_of_layered (hu : l.UserAbsolute host)
    (hs : ∀ file, source = some file → file.isAbsolute) (h : l.layered host source = .ok loaded) :
    LibraryFrom host (l.userSource host) source loaded.settings := by
  rw [layered_eq_bind] at h
  obtain ⟨user, huser, h⟩ := bind_eq_ok_iff.mp h
  obtain ⟨project, hproject, h⟩ := bind_eq_ok_iff.mp h
  obtain ⟨s, henv, rfl⟩ := map_eq_ok_iff.mp h
  obtain ⟨most, variant, -, -, rfl⟩ := Settings.eq_merge_of_withEnvironment henv
  refine ⟨user, project, Settings.layerOf_ofFile (fun _ => hu.userSource) huser,
    Settings.layerOf_ofFile hs hproject, ?_, ?_⟩
  · rw [Settings.libraryDir?_merge, Settings.libraryDir?_merge, Variables.libraryDir?_layer,
      Variables.libraryDir?, (given_heard host.environment).1]
  · rw [Settings.fallbackDir?_merge, Settings.fallbackDir?_merge, Variables.fallbackDir?_layer,
      Option.none_or]

theorem isAbsolute_of_eq_some {file : Path} (hf : file.isAbsolute) :
    ∀ path, some file = some path → path.isAbsolute := by
  rintro _ ⟨rfl⟩
  exact hf

theorem settled_workingIn (l : Loader) (host : Host) (location : Location) :
    l.settled (host.workingIn location) = l.settled host :=
  rfl

theorem loadDirectory_workingIn (hu : l.UserAbsolute host) {directory : Path}
    (hd : directory.isAbsolute) (location : Location) :
    l.loadDirectory (host.workingIn location) directory = l.loadDirectory host directory := by
  have hsource (file : Path) (h : projectSource host directory = some file) : file.isAbsolute :=
    isAbsolute_of_projectSource hd h
  rw [loadDirectory_eq, loadDirectory_eq, projectSource_workingIn hd,
    layered_workingIn hu hsource, settled_workingIn]

theorem loadFile_workingIn (hu : l.UserAbsolute host) {file : Path} (hf : file.isAbsolute)
    (location : Location) :
    l.loadFile (host.workingIn location) file = l.loadFile host file := by
  rw [loadFile, loadFile, layered_workingIn hu (isAbsolute_of_eq_some hf), settled_workingIn]

/-- A file at an absolute path gives the settings that are written there, with each library
directory that is set as it is written if it is absolute, and otherwise under the directory of the
file; both are absolute then. Where the path that loading starts from is absolute, and the one of
the user's file too, each library directory that is loaded is as its own file gives it, or as the
environment has it. The working directory makes no difference to any of this. -/
theorem library_anchored (host : Host) (location : Location) :
    (∀ file, file.isAbsolute →
      Settings.load (host.workingIn location) file = Settings.load host file ∧
      ∀ s, Settings.load host file = .ok s → s.GivenBy host file ∧ s.LibraryAbsolute) ∧
    ∀ l : Loader, l.UserAbsolute host → ∀ path, path.isAbsolute →
      l.loadDirectory (host.workingIn location) path = l.loadDirectory host path ∧
      l.loadFile (host.workingIn location) path = l.loadFile host path ∧
      (∀ loaded, (l.loadDirectory host path).1 = .ok loaded →
        LibraryFrom host (l.userSource host) (projectSource host path) loaded.settings) ∧
      ∀ loaded, (l.loadFile host path).1 = .ok loaded →
        LibraryFrom host (l.userSource host) (some path) loaded.settings := by
  constructor
  · intro file hf
    refine ⟨Settings.load_workingIn hf host location, ?_⟩
    intro s hs
    have hgiven := Settings.givenBy_of_load hf hs
    exact ⟨hgiven, hgiven.libraryAbsolute hf⟩
  · intro l hu path hp
    refine ⟨loadDirectory_workingIn hu hp location, loadFile_workingIn hu hp location, ?_, ?_⟩
    · intro loaded h
      rw [loadDirectory_eq] at h
      exact libraryFrom_of_layered hu (fun _ => isAbsolute_of_projectSource hp) h
    · intro loaded h
      rw [loadFile] at h
      exact libraryFrom_of_layered hu (isAbsolute_of_eq_some hp) h

/-- The project's file names a directory. The user's file, which is elsewhere, names another one
that loses, and a fallback that stays. Each is taken from where its own file is, whichever directory
is the working directory. -/
theorem library_anchored_mixed :
    let host : Host := {
      tree := ⟨[
        (Bytes.ofText "srv", .directory [
          (Bytes.ofText "argon2.toml", .file (Bytes.ofText "library.dir = './native/'"))]),
        (Bytes.ofText "home", .directory [
          (Bytes.ofText "user.toml", .file (Bytes.ofText
            "library.dir = '/opt/native'\nlibrary.fallback_dir = '../lib'"))])]⟩
      environment := Environment.empty
      workingDirectory := []
      accountHome := none
      executableDirectory := none }
    let location : Location := [Bytes.ofText "home"]
    let user := Path.ofText "/home/user.toml"
    let l : Loader := ⟨some user⟩
    let directory := Path.ofText "/srv/app"
    let given : Settings := { library := some {
      dir := some (Path.ofText "/opt/native")
      fallbackDir := some (Path.ofText "/home/../lib") } }
    let loaded : Loaded := ⟨{ library := some {
      dir := some (Path.ofText "/srv/./native/")
      fallbackDir := some (Path.ofText "/home/../lib") } }, some (Path.ofText "/srv/argon2.toml")⟩
    Settings.load host user = .ok given ∧ given.GivenBy host user ∧ given.LibraryAbsolute ∧
      l.UserAbsolute host ∧ (l.loadDirectory host directory).1 = .ok loaded ∧
      LibraryFrom host (some user) loaded.source loaded.settings ∧
      (l.loadDirectory (host.workingIn location) directory).1 = .ok loaded := by
  intro host location user l directory given loaded
  have habsolute : user.isAbsolute := by decide +kernel
  have hgiven : Settings.load host user = .ok given := eq_ok_of_toOption (by decide +kernel)
  have huser : l.UserAbsolute host := by
    rintro _ ⟨rfl⟩
    exact habsolute
  have hloaded : (l.loadDirectory host directory).1 = .ok loaded :=
    eq_ok_of_toOption (by decide +kernel)
  have hsource : l.userSource host = some user := by decide +kernel
  obtain ⟨hfile, hloading⟩ := library_anchored host location
  obtain ⟨hby, hlibrary⟩ := (hfile user habsolute).2 given hgiven
  have hproject : projectSource host directory = loaded.source := by decide +kernel
  obtain ⟨hsame, -, hfrom, -⟩ := hloading l huser directory (by decide +kernel)
  refine ⟨hgiven, hby, hlibrary, huser, hloaded, ?_, ?_⟩
  · rw [← hsource, ← hproject]
    exact hfrom loaded hloaded
  · rw [hsame, hloaded]

end Loader
end Config
end Argon2Native
