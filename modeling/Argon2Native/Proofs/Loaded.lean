import Argon2Native.Hasher.Bound
import Argon2Native.Proofs.Configured
import Argon2Native.Proofs.Layering
import Argon2Native.Proofs.Resolution
/-!
From files and variables to a hasher. Every way of loading ends with a check of the settings as a
whole, since layers that are valid by themselves need not be valid together; so nothing that is
loaded is refused later, and only the search for the library can still fail.

Main statement: `loaded_accepted`.
-/
namespace Argon2Native

namespace Config

variable {host : Host} {s : Settings} {loaded : Loaded}

theorem Settings.validate_of_load {file : Path} (h : load host file = .ok s) :
    s.validate = .ok () := by
  obtain ⟨text, -, h⟩ := bind_eq_ok_iff.mp h
  obtain ⟨parsed, -, h⟩ := bind_eq_ok_iff.mp h
  obtain ⟨u, hv, h⟩ := bind_eq_ok_iff.mp h
  cases h
  exact hv

theorem Settings.validate_of_withEnvironment {base : Settings} {env : Environment}
    (h : base.withEnvironment env = .ok s) : s.validate = .ok () := by
  rw [withEnvironment_eq_bind] at h
  obtain ⟨capped, -, h⟩ := bind_eq_ok_iff.mp h
  obtain ⟨named, -, h⟩ := bind_eq_ok_iff.mp h
  obtain ⟨u, hv, h⟩ := bind_eq_ok_iff.mp h
  cases h
  exact hv

namespace Loader

variable {l : Loader}

/-- Whatever the files give, loading from them ends with the environment. -/
theorem exists_base_of_layered {source : Option Path} (h : l.layered host source = .ok loaded) :
    ∃ base : Settings, base.withEnvironment host.environment = .ok loaded.settings := by
  rw [layered_eq_bind] at h
  obtain ⟨user, -, h⟩ := bind_eq_ok_iff.mp h
  obtain ⟨project, -, h⟩ := bind_eq_ok_iff.mp h
  obtain ⟨s, hs, rfl⟩ := map_eq_ok_iff.mp h
  exact ⟨_, hs⟩

theorem source_of_layered {source : Option Path} (h : l.layered host source = .ok loaded) :
    loaded.source = source := by
  rw [layered_eq_bind] at h
  obtain ⟨user, -, h⟩ := bind_eq_ok_iff.mp h
  obtain ⟨project, -, h⟩ := bind_eq_ok_iff.mp h
  obtain ⟨s, -, rfl⟩ := map_eq_ok_iff.mp h
  rfl

theorem withEnvironment_of_loadEnvironment (h : loadEnvironment host = .ok loaded) :
    Settings.empty.withEnvironment host.environment = .ok loaded.settings := by
  obtain ⟨s, hs, h⟩ := bind_eq_ok_iff.mp h
  cases h
  exact hs

theorem validate_of_layered {source : Option Path} (h : l.layered host source = .ok loaded) :
    loaded.settings.validate = .ok () := by
  obtain ⟨base, hs⟩ := exists_base_of_layered h
  exact Settings.validate_of_withEnvironment hs

theorem validate_of_loadEnvironment (h : loadEnvironment host = .ok loaded) :
    loaded.settings.validate = .ok () :=
  Settings.validate_of_withEnvironment (withEnvironment_of_loadEnvironment h)

end Loader
end Config

namespace Native.Resolver

variable {r : Resolver} {host : Host} {f : Failure}

/-- The search for a library fails for the platform, for want of a library, or for want of an entry
point in the library that decides. -/
theorem kind_of_resolve_error (h : r.resolve host = .error f) : f.kind = .resolution := by
  have hended : Resolution r (.ofHost host) host (.error f) :=
    h ▸ resolution_resolveBy (.ofHost host) r host
  cases hended with
  | unsupported => rfl
  | noSymbol => rfl
  | notFound => rfl

end Native.Resolver

namespace Hasher

open Native (Resolver)
open Config (Loader Loaded Settings)

/-- With valid settings nothing fails once the library is found. -/
theorem ofSettings_eq_error_iff {s : Settings} (hs : s.Valid) {host : Host} {f : Failure} :
    ofSettings host s = .error f ↔
      (Resolver.ofSettings host.environment s).resolve host = .error f := by
  constructor
  · intro h
    rcases bind_eq_error_iff.mp h with h | ⟨handle, -, h⟩
    · exact h
    · obtain ⟨configured, hc, -⟩ := exists_configured hs (ofHandle handle)
      rw [hc] at h
      cases h
  · intro h
    exact bind_eq_error_iff.mpr (.inl h)

/-- Whatever is loaded is valid, and whatever is valid is accepted: it gives parameters, it
configures every hasher, and a hasher from it fails only as the search for its library does. -/
theorem loaded_accepted :
    (∀ (host : Host) (l : Loader) (path : Path) (loaded : Loaded),
      (l.loadDirectory host path).1 = .ok loaded ∨ (l.loadFile host path).1 = .ok loaded ∨
        Loader.loadEnvironment host = .ok loaded → loaded.settings.validate = .ok ()) ∧
    (∀ (host : Host) (file : Path) (s : Settings),
      Settings.load host file = .ok s → s.validate = .ok ()) ∧
    ∀ s : Settings, s.validate = .ok () →
      (∃ p, Parameters.ofSettings s = .ok p ∧ p.Over s) ∧
      (∀ h : Hasher, ∃ configured, h.configured s = .ok configured ∧
        configured.ConfiguredFrom h s) ∧
      ∀ (host : Host) (f : Failure), ofSettings host s = .error f ↔
        (Resolver.ofSettings host.environment s).resolve host = .error f ∧
          f.kind = .resolution := by
  refine ⟨?_, fun _ _ _ => Settings.validate_of_load, ?_⟩
  · intro host l path loaded h
    rcases h with h | h | h
    · exact Loader.validate_of_layered h
    · have hl : l.layered host (some path) = .ok loaded := h
      exact Loader.validate_of_layered hl
    · exact Loader.validate_of_loadEnvironment h
  · intro s hs
    have hvalid := Settings.validate_eq_ok_iff.mp hs
    refine ⟨Parameters.exists_ofSettings hvalid, exists_configured hvalid, ?_⟩
    intro host f
    rw [ofSettings_eq_error_iff hvalid]
    exact ⟨fun h => ⟨h, Resolver.kind_of_resolve_error h⟩, fun h => h.1⟩

/-- A file and a variable that are loaded, on a host without the library. -/
theorem loaded_accepted_argon2id :
    let host : Host := {
      tree := ⟨[(Bytes.ofText "argon2.toml", .file (Bytes.ofText "defaults.output_len = 32"))]⟩
      environment := Environment.empty.set Config.maxOutputLengthVariable (Bytes.ofText "64")
      workingDirectory := []
      accountHome := none
      executableDirectory := none }
    let file := Path.ofText "/argon2.toml"
    let l : Loader := {}
    let s : Settings := {
      limits := some { maxOutputLength := some 64 }
      defaults := some { outputLength := some 32 } }
    let h := ofHandle (.ofEntry Native.versioned)
    (l.loadFile host file).1 = .ok ⟨s, some file⟩ ∧ s.validate = .ok () ∧
      (∃ base, Settings.load host file = .ok base ∧ base.validate = .ok ()) ∧
      (∃ configured, h.configured s = .ok configured ∧ configured.ConfiguredFrom h s) ∧
      ofSettings host s = .error (.libraryNotFound "libargon2.so" []) := by
  intro host file l s h
  obtain ⟨hloaded, hfile, haccepted⟩ := loaded_accepted
  have hl : (l.loadFile host file).1 = .ok ⟨s, some file⟩ :=
    Config.eq_ok_of_toOption (by decide +kernel)
  have hb : Settings.load host file = .ok { defaults := some { outputLength := some 32 } } :=
    Config.eq_ok_of_toOption (by decide +kernel)
  have hs : s.validate = .ok () := hloaded host l file ⟨s, some file⟩ (.inr (.inl hl))
  obtain ⟨-, hconfigured, hbound⟩ := haccepted s hs
  exact ⟨hl, hs, ⟨_, hb, hfile host file _ hb⟩, hconfigured h, (hbound host _).mpr ⟨rfl, rfl⟩⟩

end Hasher
end Argon2Native
