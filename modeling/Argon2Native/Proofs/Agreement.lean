import Argon2Native.Proofs.Loaded
/-!
The three ways of loading. From a directory, loading is as from the project file that the search
finds; where it finds none and there is no user's file either, it is as from the environment alone.
Files that are searched for are looked up before they are read, so the only file that can be missing
is one that was asked for by its path.

Main statement: `loading_agrees`.
-/
namespace Argon2Native

namespace Host

variable {host : Host} {file missing : Path}

theorem readText_eq_missing_iff : host.readText file = .error (.missing missing) ↔
    missing = file ∧ host.entry? file = .error .missing := by
  unfold readText
  split
  · next content he =>
    rw [he]
    cases Bytes.text? content <;> simp
  all_goals simp [*, eq_comm]

theorem exists?_of_isFile (h : host.isFile file) : host.exists? file := by
  unfold isFile at h
  unfold exists?
  split at h
  · next he => rw [he]; rfl
  · next he => rw [he]; rfl
  · cases h

theorem entry?_ne_missing_of_exists (h : host.exists? file) :
    host.entry? file ≠ .error .missing := by
  intro he
  rw [exists?, he] at h
  cases h

end Host

namespace Config

theorem readMaxOutputLength_of_error {text : String} {f : Failure}
    (h : readMaxOutputLength text = .error f) : ∃ field fault, f = .invalid field fault := by
  unfold readMaxOutputLength at h
  split at h
  · cases h
    exact ⟨_, _, rfl⟩
  · split at h
    · cases h
      exact ⟨_, _, rfl⟩
    · cases h

theorem readVariant_of_error {text : String} {f : Failure}
    (h : readVariant text = .error f) : ∃ field fault, f = .invalid field fault := by
  unfold readVariant at h
  split at h
  · cases h
    exact ⟨_, _, rfl⟩
  · cases h

namespace Settings

variable {host : Host} {s : Settings} {env : Environment} {file missing : Path} {f : Failure}

theorem validate_of_error (h : s.validate = .error f) : ∃ field fault, f = .invalid field fault := by
  unfold validate at h
  split at h
  · cases h
  · cases h
    exact ⟨_, _, rfl⟩

theorem parse_of_error {text : String} (h : parse file text = .error f) : f = .malformed file := by
  unfold parse at h
  split at h
  · cases h
  · cases h
    rfl

theorem setRead_of_error {α : Type} {set : Settings → α → Settings}
    {read : String → Except Failure α} {value : Option String}
    (hread : ∀ text, read text = .error f → ∃ field fault, f = .invalid field fault)
    (h : setRead set read s value = .error f) : ∃ field fault, f = .invalid field fault := by
  cases value with
  | none => cases h
  | some text => exact hread text (map_eq_error_iff.mp h)

/-- What the environment makes of settings is refused by naming a field. -/
theorem withEnvironment_of_error (h : s.withEnvironment env = .error f) :
    ∃ field fault, f = .invalid field fault := by
  rw [withEnvironment_eq_bind] at h
  obtain h | ⟨capped, -, h⟩ := bind_eq_error_iff.mp h
  · exact setRead_of_error (fun _ => readMaxOutputLength_of_error) h
  obtain h | ⟨named, -, h⟩ := bind_eq_error_iff.mp h
  · exact setRead_of_error (fun _ => readVariant_of_error) h
  obtain h | ⟨u, -, h⟩ := bind_eq_error_iff.mp h
  · exact validate_of_error h
  · cases h

/-- A file can be missing only as itself, and only because nothing stands there. -/
theorem load_eq_missing_iff : load host file = .error (.missing missing) ↔
    missing = file ∧ host.entry? file = .error .missing := by
  rw [← Host.readText_eq_missing_iff]
  constructor
  · intro h
    obtain h | ⟨text, -, h⟩ := bind_eq_error_iff.mp h
    · exact h
    obtain h | ⟨parsed, -, h⟩ := bind_eq_error_iff.mp h
    · cases parse_of_error h
    obtain h | ⟨u, -, h⟩ := bind_eq_error_iff.mp h
    · obtain ⟨field, fault, hf⟩ := validate_of_error h
      cases hf
    · cases h
  · intro h
    exact bind_eq_error_iff.mpr (.inl h)

theorem ofFile_eq_missing_iff {source : Option Path} :
    ofFile host source = .error (.missing missing) ↔
      source = some missing ∧ host.entry? missing = .error .missing := by
  cases source with
  | none => simp [ofFile]
  | some file =>
    rw [ofFile, load_eq_missing_iff, Option.some.injEq]
    constructor
    · rintro ⟨rfl, he⟩
      exact ⟨rfl, he⟩
    · rintro ⟨rfl, he⟩
      exact ⟨rfl, he⟩

end Settings

theorem isFile_of_projectSource {host : Host} {directory file : Path}
    (h : projectSource host directory = some file) : host.isFile file :=
  List.find?_some h

namespace Loader

variable {l : Loader} {host : Host} {missing : Path}

theorem exists_of_userSource {file : Path} (h : l.userSource host = some file) :
    host.exists? file :=
  (Option.filter_eq_some_iff.mp h).2

/-- The user's file is never reported as missing. -/
theorem layered_eq_missing_iff {source : Option Path} :
    l.layered host source = .error (.missing missing) ↔
      (∃ user, Settings.ofFile host (l.userSource host) = .ok user) ∧
        source = some missing ∧ host.entry? missing = .error .missing := by
  rw [layered_eq_bind, ← Settings.ofFile_eq_missing_iff]
  constructor
  · intro h
    obtain h | ⟨user, hu, h⟩ := bind_eq_error_iff.mp h
    · obtain ⟨hs, he⟩ := Settings.ofFile_eq_missing_iff.mp h
      exact absurd he (Host.entry?_ne_missing_of_exists (exists_of_userSource hs))
    obtain h | ⟨project, -, h⟩ := bind_eq_error_iff.mp h
    · exact ⟨⟨user, hu⟩, h⟩
    · obtain ⟨field, fault, hf⟩ := Settings.withEnvironment_of_error (map_eq_error_iff.mp h)
      cases hf
  · rintro ⟨⟨user, hu⟩, h⟩
    exact bind_eq_error_iff.mpr (.inr ⟨user, hu, bind_eq_error_iff.mpr (.inl h)⟩)

theorem loadDirectory_eq (l : Loader) (host : Host) (directory : Path) :
    l.loadDirectory host directory =
      (l.layered host (projectSource host directory), l.settled host) := by
  rw [loadDirectory, findProjectFile_eq]

/-- With no file to read, the environment is laid over nothing. -/
theorem layered_of_no_files (hu : l.userSource host = none) :
    l.layered host none = loadEnvironment host := by
  rw [layered_eq_bind, hu]
  change ((Settings.empty.merge .empty).withEnvironment host.environment).map _ = _
  rw [Settings.merge_empty, loadEnvironment]
  cases Settings.empty.withEnvironment host.environment <;> rfl

theorem userSource_eq_none (h : ∀ file, (l.settled host).userPath = some file → ¬host.exists? file) :
    l.userSource host = none := by
  rw [userSource, ← userPath_settled, Option.filter_eq_none_iff]
  exact h

/-- Where the search from a directory finds a project file, loading is as from that file, whether it
succeeds or fails. Where it finds none and the user's file does not exist, it is as from the
environment alone. A file that is missing is never reported but by loading from a file, and only
where the user's layer is there and nothing stands at the path that was asked for. -/
theorem loading_agrees (l : Loader) (host : Host) (directory : Path) :
    (∀ file, projectSource host directory = some file →
      l.loadDirectory host directory = l.loadFile host file ∧
      ∀ loaded, (l.loadDirectory host directory).1 = .ok loaded → loaded.source = some file) ∧
    (projectSource host directory = none →
      (∀ file, (l.settled host).userPath = some file → ¬host.exists? file) →
      (l.loadDirectory host directory).1 = loadEnvironment host) ∧
    (∀ missing, (l.loadDirectory host directory).1 ≠ .error (.missing missing)) ∧
    ∀ file missing, (l.loadFile host file).1 = .error (.missing missing) ↔
      missing = file ∧ host.entry? file = .error .missing ∧ ∃ user, l.loadUser host = .ok user := by
  rw [loadDirectory_eq]
  refine ⟨?_, ?_, ?_, ?_⟩
  · intro file hfile
    rw [hfile]
    exact ⟨rfl, fun loaded hl => source_of_layered hl⟩
  · intro hnone hmissing
    rw [hnone]
    exact layered_of_no_files (userSource_eq_none hmissing)
  · intro missing h
    obtain ⟨-, hsource, he⟩ := layered_eq_missing_iff.mp h
    have hexists := Host.exists?_of_isFile (isFile_of_projectSource hsource)
    exact Host.entry?_ne_missing_of_exists hexists he
  · intro file missing
    rw [loadFile, layered_eq_missing_iff, loadUser_eq, Option.some.injEq]
    constructor
    · rintro ⟨hu, rfl, he⟩
      exact ⟨rfl, he, hu⟩
    · rintro ⟨rfl, he, hu⟩
      exact ⟨hu, rfl, he⟩

/-- A project file one directory up, and a user's file under what is itself a file. -/
theorem loading_agrees_argon2id :
    let host : Host := {
      tree := ⟨[(Bytes.ofText "srv", .directory [(Bytes.ofText "argon2.toml",
        .file (Bytes.ofText "limits.max_output_len = 64"))]), (Bytes.ofText "notes", .file [])]⟩
      environment := Environment.empty.set variantVariable (Bytes.ofText "Argon2ID")
      workingDirectory := []
      accountHome := none
      executableDirectory := none }
    let user := Path.ofText "/notes/config.toml"
    let l : Loader := ⟨some user⟩
    let file := Path.ofText "/srv/argon2.toml"
    let below := Path.ofText "/srv/app"
    let beside := Path.ofText "/notes"
    let loaded : Loaded := ⟨{
      limits := some { maxOutputLength := some 64 }
      defaults := some { variant := some "argon2id" } }, some file⟩
    projectSource host below = some file ∧ (l.loadFile host file).1 = .ok loaded ∧
      (l.loadDirectory host below).1 = .ok loaded ∧
      projectSource host beside = none ∧ (l.settled host).userPath = some user ∧
      ¬host.exists? user ∧ (l.loadDirectory host beside).1 = loadEnvironment host := by
  intro host user l file below beside loaded
  have hfound : projectSource host below = some file := by decide +kernel
  have hloaded : (l.loadFile host file).1 = .ok loaded := eq_ok_of_toOption (by decide +kernel)
  have hnone : projectSource host beside = none := by decide +kernel
  have hmissing : ¬host.exists? user := by decide +kernel
  obtain ⟨hbelow, -⟩ := loading_agrees l host below
  obtain ⟨-, hbeside, -⟩ := loading_agrees l host beside
  refine ⟨hfound, hloaded, ?_, hnone, rfl, hmissing, ?_⟩
  · rw [(hbelow file hfound).1, hloaded]
  · apply hbeside hnone
    rintro _ ⟨rfl⟩
    exact hmissing

end Loader
end Config
end Argon2Native
