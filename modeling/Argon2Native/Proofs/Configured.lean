import Argon2Native.Native.StandIn
import Argon2Native.Proofs.Hashing
import Argon2Native.Proofs.Validation
/-!
What valid settings make of a hasher. They are never refused, but they are checked before the
standard values stand in for what they leave unset: a ceiling may be below the standard length, and
a length above the standard ceiling. Only where both are set are they compared beforehand.

Main statements: `exists_configured` and `configured_hashDefault`.
-/
namespace Argon2Native

open Config (Settings)

theorem Variant.ofText_name (v : Variant) : ofText v.name = .ok v := by
  have hl : Lowercase.ascii v.name = v.name := by
    rw [← String.toList_inj, Lowercase.ascii, String.toList_map]
    cases v <;> decide
  rw [ofText, hl, named?_name]

/-- What holds of the values that may be set and of the one that stands in for them. -/
theorem getD_of_forall {α : Type} {P : α → Prop} {value : Option α} {standard : α}
    (hset : ∀ a, value = some a → P a) (hstandard : P standard) : P (value.getD standard) := by
  cases value with
  | none => exact hstandard
  | some a => exact hset a rfl

namespace Parameters

variable {p base : Parameters} {s : Settings}

/-- Parameters that are as set, with names read as callers may write them, and as in `base` where
nothing is set. -/
structure SetOver (p base : Parameters) (s : Settings) : Prop where
  timeCost : p.timeCost = s.timeCost?.getD base.timeCost
  memoryCost : p.memoryCost = s.memoryCost?.getD base.memoryCost
  parallelism : p.parallelism = s.parallelism?.getD base.parallelism
  outputLength : p.outputLength = s.outputLength?.getD base.outputLength
  variant : s.variant?.elim (.ok base.variant) Variant.ofText = .ok p.variant

theorem ofSettings_eq_ok_iff : ofSettings s = .ok p ↔ p.SetOver standard s := by
  have hofSettings : ofSettings s =
      (s.variant?.elim (.ok standard.variant) Variant.ofText).bind fun variant => .ok
        { timeCost := s.timeCost?.getD standard.timeCost
          memoryCost := s.memoryCost?.getD standard.memoryCost
          parallelism := s.parallelism?.getD standard.parallelism
          outputLength := s.outputLength?.getD standard.outputLength
          variant } := by
    unfold ofSettings
    cases s.variant? <;> rfl
  rw [hofSettings, bind_eq_ok_iff]
  constructor
  · rintro ⟨variant, hv, hp⟩
    cases hp
    exact ⟨rfl, rfl, rfl, rfl, hv⟩
  · rintro ⟨ht, hm, hl, hn, hv⟩
    obtain ⟨t, m, l, n, v⟩ := p
    refine ⟨v, hv, ?_⟩
    rw [Except.ok.injEq, mk.injEq]
    exact ⟨ht.symm, hm.symm, hl.symm, hn.symm, rfl⟩

/-- Only the name of a variant may fail to read. -/
theorem exists_setOver {v : Variant}
    (hv : s.variant?.elim (.ok base.variant) Variant.ofText = .ok v) :
    ∃ p : Parameters, p.SetOver base s ∧ p.variant = v :=
  ⟨⟨s.timeCost?.getD base.timeCost, s.memoryCost?.getD base.memoryCost,
    s.parallelism?.getD base.parallelism, s.outputLength?.getD base.outputLength, v⟩,
    ⟨rfl, rfl, rfl, rfl, hv⟩, rfl⟩

structure Over (p : Parameters) (s : Settings) : Prop where
  timeCost : p.timeCost = s.timeCost?.getD standard.timeCost
  memoryCost : p.memoryCost = s.memoryCost?.getD standard.memoryCost
  parallelism : p.parallelism = s.parallelism?.getD standard.parallelism
  outputLength : p.outputLength = s.outputLength?.getD standard.outputLength
  variant : p.variant.name = s.variant?.getD standard.variant.name

/-- Every name that valid settings give to a variant is one that reads. -/
theorem exists_ofSettings {s : Settings} (hs : s.Valid) :
    ∃ p, ofSettings s = .ok p ∧ p.Over s := by
  have hvariant : ∃ v : Variant, s.variant?.elim (.ok standard.variant) Variant.ofText = .ok v ∧
      v.name = s.variant?.getD standard.variant.name := by
    cases hn : s.variant? with
    | none => exact ⟨_, rfl, rfl⟩
    | some name =>
      obtain ⟨v, rfl⟩ := hs.variant name hn
      exact ⟨v, Variant.ofText_name v, rfl⟩
  obtain ⟨v, hv, hname⟩ := hvariant
  obtain ⟨p, hp, rfl⟩ := exists_setOver hv
  exact ⟨p, ofSettings_eq_ok_iff.mpr hp, hp.timeCost, hp.memoryCost, hp.parallelism,
    hp.outputLength, hname⟩

/-- With costs that are not zero only the length decides. -/
theorem validate_of_costs {p : Parameters} (ht : p.timeCost ≠ 0) (hm : p.memoryCost ≠ 0)
    (hl : p.parallelism ≠ 0) (limits : Limits) :
    p.validate limits = limits.checkLength p.outputLength := by
  unfold validate checkCost
  rw [if_neg ht, if_neg hm, if_neg hl]
  rfl

/-- The standard values are within all bounds but the ceiling, and so is what is set. -/
theorem Over.validate_eq {p : Parameters} {s : Settings} (hp : p.Over s) (hs : s.Valid)
    (limits : Limits) : p.validate limits =
      if limits.maxOutputLength < p.outputLength then
        .error (.invalidParameter "output_len" (.tooLong limits.maxOutputLength p.outputLength))
      else .ok () := by
  have ht : p.timeCost ≠ 0 := hp.timeCost ▸ getD_of_forall hs.timeCost (by decide)
  have hm : p.memoryCost ≠ 0 := hp.memoryCost ▸ getD_of_forall hs.memoryCost (by decide)
  have hl : p.parallelism ≠ 0 := hp.parallelism ▸ getD_of_forall hs.parallelism (by decide)
  have hleast : leastOutputLength ≤ p.outputLength :=
    hp.outputLength ▸ getD_of_forall (fun n hn => (hs.outputLength n hn).1) (by decide)
  rw [validate_of_costs ht hm hl, Limits.checkLength, if_neg (Nat.not_lt.mpr hleast)]

end Parameters

namespace Config.Settings

def effectiveLength (s : Settings) : Nat :=
  s.outputLength?.getD Parameters.standard.outputLength

def effectiveCeiling (s : Settings) : Nat :=
  s.maxOutputLength?.getD Limits.standard.maxOutputLength

/-- Only a value that is set against a standard one can be out of step with it. -/
theorem Valid.effectiveCeiling_lt_iff {s : Settings} (hs : s.Valid) :
    s.effectiveCeiling < s.effectiveLength ↔
      (s.outputLength? = none ∧ ∃ most, s.maxOutputLength? = some most ∧ most < 128) ∨
      (s.maxOutputLength? = none ∧ ∃ n, s.outputLength? = some n ∧ 1024 * 1024 < n) := by
  unfold effectiveCeiling effectiveLength
  cases hn : s.outputLength? with
  | none =>
    cases hm : s.maxOutputLength? with
    | none => simp [Parameters.standard, Limits.standard]
    | some most => simp [Parameters.standard]
  | some n =>
    cases hm : s.maxOutputLength? with
    | none => simp [Limits.standard]
    | some most => simpa using (hs.outputLength n hn).2 most hm

end Config.Settings

namespace Hasher

open Native (Handle Run)

section

variable {h h' : Hasher} {s : Settings}

theorem limits_eq_ok_iff {most : Option Nat} {limits limits' : Limits} :
    most.elim (.ok limits) Limits.ofMax = .ok limits' ↔
      limits'.maxOutputLength = most.getD limits.maxOutputLength := by
  cases most with
  | none =>
    obtain ⟨n, -, -⟩ := limits
    obtain ⟨n', -, -⟩ := limits'
    simp [eq_comm]
  | some n =>
    rw [Option.elim_some, Limits.ofMax_eq_ok_iff, Option.getD_some]
    exact eq_comm

structure Takes (h' h : Hasher) (s : Settings) : Prop where
  maxOutputLength :
    h'.limits.maxOutputLength = s.maxOutputLength?.getD h.limits.maxOutputLength
  defaults : h'.defaults.SetOver .standard s
  handle : h'.handle = h.handle
  encodedVersion : h'.encodedVersion = h.encodedVersion

theorem configured_eq_ok_iff : h.configured s = .ok h' ↔ h'.Takes h s := by
  have hconfigured : h.configured s =
      (s.maxOutputLength?.elim (.ok h.limits) Limits.ofMax).bind fun limits =>
      (Parameters.ofSettings s).bind fun defaults => .ok { h with limits, defaults } := by
    unfold configured
    cases s.maxOutputLength? <;> rfl
  simp only [hconfigured, bind_eq_ok_iff, limits_eq_ok_iff, Parameters.ofSettings_eq_ok_iff]
  constructor
  · rintro ⟨limits, hl, defaults, hd, he⟩
    cases he
    exact ⟨hl, hd, rfl, rfl⟩
  · rintro ⟨hl, hd, hh, hv⟩
    refine ⟨h'.limits, hl, h'.defaults, hd, ?_⟩
    rw [← hh, ← hv]

end

structure ConfiguredFrom (configured h : Hasher) (s : Settings) : Prop where
  maxOutputLength :
    configured.limits.maxOutputLength = s.maxOutputLength?.getD h.limits.maxOutputLength
  defaults : configured.defaults.Over s
  handle : configured.handle = h.handle
  encodedVersion : configured.encodedVersion = h.encodedVersion

/-- Valid settings are never refused. -/
theorem exists_configured {s : Settings} (hs : s.Valid) (h : Hasher) :
    ∃ configured, h.configured s = .ok configured ∧ configured.ConfiguredFrom h s := by
  have hlimits : ∃ limits : Limits,
      limits.maxOutputLength = s.maxOutputLength?.getD h.limits.maxOutputLength := by
    cases hm : s.maxOutputLength? with
    | none => exact ⟨h.limits, rfl⟩
    | some most =>
      obtain ⟨hleast, hmost⟩ := hs.maxOutputLength most hm
      exact ⟨⟨most, hleast, hmost⟩, rfl⟩
  obtain ⟨limits, hl⟩ := hlimits
  obtain ⟨defaults, hp, hover⟩ := Parameters.exists_ofSettings hs
  have htakes : Takes { h with limits, defaults } h s :=
    ⟨hl, Parameters.ofSettings_eq_ok_iff.mp hp, rfl, rfl⟩
  exact ⟨_, configured_eq_ok_iff.mpr htakes, hl, hover, rfl, rfl⟩

variable {h : Hasher} {password salt : Input} {p : Parameters} {request : Request}

/-- Inputs that can be taken and valid parameters leave only failures of the native function. -/
theorem kind_of_hash_error (hi : Request.ofInputs password salt p = .ok request)
    (hv : p.validate h.limits = .ok ()) {f : Failure}
    (hf : (h.hash password salt p).result = .error f) : f.kind = .native ∨ f.kind = .unknown := by
  have hread : (Native.Call.ofRequest request false).read
      (h.handle.entry (.ofRequest request false)) = .error f := by
    rw [← hf, hash_eq, submit_of_valid hi hv]
    rfl
  exact Native.Call.kind_of_read_error hread

/-- Over valid settings a new hasher is always configured. Its own defaults are valid under its
limits unless the length is above the ceiling, each as set or as it is without settings, and that
takes one that is set and one that is not. A default hash of inputs that can be taken then never
fails for a parameter; where the length is above the ceiling it fails for that, without a call. -/
theorem configured_hashDefault {s : Settings} (hs : s.validate = .ok ()) (handle : Handle) :
    ∃ h, (ofHandle handle).configured s = .ok h ∧ h.ConfiguredFrom (ofHandle handle) s ∧
      (h.defaults.validate h.limits = .ok () ↔ s.effectiveLength ≤ s.effectiveCeiling) ∧
      (s.effectiveCeiling < s.effectiveLength ↔
        (s.outputLength? = none ∧ ∃ most, s.maxOutputLength? = some most ∧ most < 128) ∨
        (s.maxOutputLength? = none ∧ ∃ n, s.outputLength? = some n ∧ 1024 * 1024 < n)) ∧
      ∀ (password salt : Input) (octets saltOctets : Bytes),
        password.normalize "password" = .ok octets → salt.normalize "salt" = .ok saltOctets →
          (s.effectiveLength ≤ s.effectiveCeiling → ∀ field fault,
            (h.hashDefault password salt).result ≠ .error (.invalidParameter field fault)) ∧
          (s.effectiveCeiling < s.effectiveLength → h.hashDefault password salt =
            Run.ofExcept (.error (.invalidParameter "output_len"
              (.tooLong s.effectiveCeiling s.effectiveLength)))) := by
  have hvalid := Settings.validate_eq_ok_iff.mp hs
  obtain ⟨h, hc, hfrom⟩ := exists_configured hvalid (ofHandle handle)
  have hmost : h.limits.maxOutputLength = s.effectiveCeiling := hfrom.maxOutputLength
  have hlength : h.defaults.outputLength = s.effectiveLength := hfrom.defaults.outputLength
  have hcheck := hfrom.defaults.validate_eq hvalid h.limits
  rw [hmost, hlength] at hcheck
  refine ⟨h, hc, hfrom, ?_, hvalid.effectiveCeiling_lt_iff, ?_⟩
  · rw [hcheck]
    split <;> simp_all
  · intro password salt octets saltOctets hp hsalt
    have hi : Request.ofInputs password salt h.defaults = .ok ⟨octets, saltOctets, h.defaults⟩ :=
      Request.ofInputs_eq_ok_iff.mpr ⟨hp, hsalt, rfl⟩
    constructor
    · intro hle field fault he
      rw [if_neg (Nat.not_lt.mpr hle)] at hcheck
      rcases kind_of_hash_error hi hcheck he with hk | hk <;> cases hk
    · intro hlt
      rw [if_pos hlt] at hcheck
      exact submit_of_invalid hi hcheck false

/-- A length and a ceiling that are both set, and so were compared beforehand. -/
theorem configured_hashDefault_argon2id :
    let s : Settings := {
      limits := some { maxOutputLength := some 64 }
      defaults := some { outputLength := some 64, variant := some "argon2id" } }
    let password : Input := .text "password"
    let salt : Input := .raw (List.replicate 8 7)
    s.validate = .ok () ∧ password.normalize "password" = .ok (Bytes.ofText "password") ∧
      salt.normalize "salt" = .ok (List.replicate 8 7) ∧
      s.effectiveLength ≤ s.effectiveCeiling ∧
      ∃ h, (ofHandle (.ofEntry Native.versioned)).configured s = .ok h ∧
        h.defaults.validate h.limits = .ok () ∧ ∀ field fault,
          (h.hashDefault password salt).result ≠ .error (.invalidParameter field fault) := by
  intro s password salt
  have hs : s.validate = .ok () := rfl
  have hle : s.effectiveLength ≤ s.effectiveCeiling := by decide
  obtain ⟨h, hc, -, hv, -, hhash⟩ := configured_hashDefault hs (.ofEntry Native.versioned)
  exact ⟨hs, rfl, rfl, hle, h, hc, hv.mpr hle, (hhash password salt _ _ rfl rfl).1 hle⟩

/-- A ceiling below the standard length, which is not set, is valid; but then the defaults are not
valid under the limits, and no default hash succeeds. -/
theorem configured_beyond_ceiling :
    let s : Settings := { limits := some { maxOutputLength := some 64 } }
    let password : Input := .text "password"
    let salt : Input := .text "some salt"
    s.validate = .ok () ∧ password.normalize "password" = .ok (Bytes.ofText "password") ∧
      salt.normalize "salt" = .ok (Bytes.ofText "some salt") ∧
      ∃ h, (ofHandle (.ofEntry Native.versioned)).configured s = .ok h ∧
        h.defaults.validate h.limits ≠ .ok () ∧
        (h.hashDefault password salt).result =
          .error (.invalidParameter "output_len" (.tooLong 64 128)) := by
  intro s password salt
  refine ⟨rfl, rfl, rfl, _, rfl, ?_, rfl⟩
  rw [Ne, Parameters.validate_eq_ok_iff]
  decide

end Hasher
end Argon2Native
