import Argon2Native.Proofs.Configured
import Argon2Native.Proofs.Lowercase
import Argon2Native.Proofs.Overrides
/-!
The three readers of a variant name. The environment's folds all case, a caller's only that of
ASCII, and that of settings none; but the names are of ASCII letters that nothing else becomes in
lowercase, so the first two take the same texts for the same variants, and what the third takes is
among them.

Main statement: `variant_readers_agree`.
-/
namespace Argon2Native

open Config (readVariant)

namespace Variant

theorem isPlain_of_mem_name {v : Variant} : ∀ c ∈ v.name.toList, Lowercase.IsPlain c := by
  have hall : v.name.toList.all (Lowercase.IsPlain ·) := by cases v <;> decide
  exact fun c hc => of_decide_eq_true (List.all_eq_true.mp hall c hc)

theorem ofText_eq_ok_iff {text : String} {v : Variant} :
    ofText text = .ok v ↔ Lowercase.ascii text = v.name := by
  rw [← named?_eq_some_iff, ofText]
  cases named? (Lowercase.ascii text) with
  | none => simp
  | some w => simp

theorem readVariant_eq_ok_iff {text name : String} :
    readVariant text = .ok name ↔ ∃ v : Variant, ofText text = .ok v ∧ name = v.name := by
  simp only [ofText_eq_ok_iff, ← Lowercase.full_eq_iff isPlain_of_mem_name]
  rw [Config.readVariant_eq_ok_iff]
  constructor
  · rintro ⟨hfull, v, hname⟩
    exact ⟨v, hfull.trans hname, hname⟩
  · rintro ⟨v, hfull, hname⟩
    exact ⟨hfull.trans hname.symm, v, hname⟩

end Variant

namespace Config.Loader

variable {host : Host} {text : String}

def variantLayer (dir : Option String) (name : String) : Loaded where
  settings := {
    library := dir.map fun dir => { dir := some (Path.ofText dir) }
    defaults := some { variant := some name } }
  source := none

theorem loadEnvironment_of_variant (ht : host.environment.text? variantVariable = some text)
    (hn : host.environment.text? maxOutputLengthVariable = none) :
    loadEnvironment host = (readVariant text).map
      (variantLayer (host.environment.text? libraryDirVariable)) := by
  rw [loadEnvironment_eq, ht, hn, Option.mapM_some]
  cases readVariant text <;> rfl

/-- Whatever is set and valid as a variant is read by a caller as it is written. -/
theorem ofText_of_validate {s : Settings} {name : String} (hs : s.validate = .ok ())
    (hname : s.variant? = some name) :
    ∃ v : Variant, name = v.name ∧ Variant.ofText name = .ok v := by
  obtain ⟨v, rfl⟩ := (Settings.validate_eq_ok_iff.mp hs).variant name hname
  exact ⟨v, rfl, v.ofText_name⟩

/-- Where the variable for the variant holds a text and that for the ceiling is unset, loading the
environment succeeds exactly for the texts that a caller may write for a variant; it sets that
variant's own name, and the parameters that are made of it have that variant. Any name that is
valid in settings is one that a caller may write for the same variant. -/
theorem variant_readers_agree :
    (∀ (host : Host) (text : String),
      host.environment.value? variantVariable = some (Bytes.ofText text) → text ≠ "" →
      host.environment.value? maxOutputLengthVariable = none →
      ((∃ loaded, loadEnvironment host = .ok loaded) ↔ ∃ v, Variant.ofText text = .ok v) ∧
      ∀ loaded v, loadEnvironment host = .ok loaded → Variant.ofText text = .ok v →
        loaded.settings.variant? = some v.name ∧
        ∃ p, Parameters.ofSettings loaded.settings = .ok p ∧ p.variant = v) ∧
    ∀ (s : Settings) (name : String), s.validate = .ok () → s.variant? = some name →
      ∃ v : Variant, name = v.name ∧ Variant.ofText name = .ok v := by
  refine ⟨?_, fun s name => ofText_of_validate⟩
  intro host text htext hne hlength
  have ht := Environment.text?_of_value? htext hne
  have hn := Environment.text?_of_unset hlength
  rw [loadEnvironment_of_variant ht hn]
  constructor
  · constructor
    · rintro ⟨loaded, hl⟩
      obtain ⟨name, hname, -⟩ := map_eq_ok_iff.mp hl
      obtain ⟨v, hv, -⟩ := Variant.readVariant_eq_ok_iff.mp hname
      exact ⟨v, hv⟩
    · rintro ⟨v, hv⟩
      exact ⟨_, map_eq_ok_iff.mpr ⟨v.name, Variant.readVariant_eq_ok_iff.mpr ⟨v, hv, rfl⟩, rfl⟩⟩
  · intro loaded v hl hv
    obtain ⟨name, hname, rfl⟩ := map_eq_ok_iff.mp hl
    obtain ⟨w, hw, rfl⟩ := Variant.readVariant_eq_ok_iff.mp hname
    obtain rfl : v = w := Except.ok.inj (hv.symm.trans hw)
    let loaded := variantLayer (host.environment.text? libraryDirVariable) v.name
    have hread : loaded.settings.variant?.elim (.ok Parameters.standard.variant) Variant.ofText =
        .ok v := v.ofText_name
    obtain ⟨p, hp, hpv⟩ := Parameters.exists_setOver hread
    exact ⟨rfl, p, Parameters.ofSettings_eq_ok_iff.mpr hp, hpv⟩

/-- A name in mixed case for the first two readers, and an exact one for the third. -/
theorem variant_readers_agree_argon2id :
    let text := "Argon2ID"
    let host : Host := {
      tree := FileTree.empty
      environment := Environment.empty.set variantVariable (Bytes.ofText text)
      workingDirectory := []
      accountHome := none
      executableDirectory := none }
    let given : Settings := { defaults := some { variant := some "argon2d" } }
    host.environment.value? variantVariable = some (Bytes.ofText text) ∧ text ≠ "" ∧
      host.environment.value? maxOutputLengthVariable = none ∧
      Variant.ofText text = .ok .argon2id ∧
      (∃ loaded, loadEnvironment host = .ok loaded ∧
        loaded.settings.variant? = some "argon2id" ∧
        ∃ p, Parameters.ofSettings loaded.settings = .ok p ∧ p.variant = .argon2id) ∧
      given.validate = .ok () ∧ given.variant? = some "argon2d" ∧
      ∃ v : Variant, "argon2d" = v.name ∧ Variant.ofText "argon2d" = .ok v := by
  intro text host given
  have hne : text ≠ "" := by decide
  have hv : Variant.ofText text = .ok .argon2id := by decide +kernel
  have hgiven : given.validate = .ok () := by decide +kernel
  obtain ⟨hagree, hvalid⟩ := variant_readers_agree
  obtain ⟨hiff, hboth⟩ := hagree host text rfl hne rfl
  obtain ⟨loaded, hl⟩ := hiff.mpr ⟨.argon2id, hv⟩
  exact ⟨rfl, hne, rfl, hv, ⟨loaded, hl, hboth loaded .argon2id hl hv⟩, hgiven, rfl,
    hvalid given "argon2d" hgiven rfl⟩

end Config.Loader
end Argon2Native
