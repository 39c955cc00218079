import Argon2Native.Proofs.Configured
import Argon2Native.Proofs.Merging
/-!
A hasher that is configured twice. Its ceiling is that of the last settings that set one, as if they
had been merged. Its defaults are those of the last settings over the standard ones, whatever the
settings before said: these are forgotten where merged settings would keep them.

Main statements: `configured_configured`, and `configured_forgets` for what is forgotten.
-/
namespace Argon2Native

open Config (Settings)

namespace Parameters

variable {p q r base : Parameters} {s a b : Settings}

/-- Settings over parameters that came from other settings are merged settings. -/
theorem SetOver.merge (ha : q.SetOver base a) (hb : p.SetOver q b) :
    p.SetOver base (a.merge b) where
  timeCost := by rw [hb.timeCost, ha.timeCost, Settings.timeCost?_merge, Option.getD_or]
  memoryCost := by rw [hb.memoryCost, ha.memoryCost, Settings.memoryCost?_merge, Option.getD_or]
  parallelism := by rw [hb.parallelism, ha.parallelism, Settings.parallelism?_merge, Option.getD_or]
  outputLength := by
    rw [hb.outputLength, ha.outputLength, Settings.outputLength?_merge, Option.getD_or]
  variant := by
    rw [← hb.variant, Settings.variant?_merge]
    cases b.variant? with
    | none => exact ha.variant
    | some name => rfl

/-- Whether a name reads does not depend on what it is laid over. -/
theorem SetOver.exists_over (h : p.SetOver base s) (q : Parameters) : ∃ r, SetOver r q s := by
  have hvariant : ∃ v, s.variant?.elim (.ok q.variant) Variant.ofText = .ok v := by
    have hp := h.variant
    cases hn : s.variant? with
    | none => exact ⟨_, rfl⟩
    | some name =>
      rw [hn] at hp
      exact ⟨_, hp⟩
  obtain ⟨v, hv⟩ := hvariant
  obtain ⟨r, hr, -⟩ := exists_setOver hv
  exact ⟨r, hr⟩

structure SameUnset (p q : Parameters) (s : Settings) : Prop where
  timeCost : s.timeCost? = none → p.timeCost = q.timeCost
  memoryCost : s.memoryCost? = none → p.memoryCost = q.memoryCost
  parallelism : s.parallelism? = none → p.parallelism = q.parallelism
  outputLength : s.outputLength? = none → p.outputLength = q.outputLength
  variant : s.variant? = none → p.variant = q.variant

theorem getD_eq_getD_iff {α : Type} {value : Option α} {x y : α} :
    value.getD x = value.getD y ↔ (value = none → x = y) := by
  cases value <;> simp

theorem SetOver.eq_iff {base' : Parameters} (hp : p.SetOver base s) (hq : q.SetOver base' s) :
    p = q ↔ SameUnset base base' s := by
  have hvariant : p.variant = q.variant ↔ (s.variant? = none → base.variant = base'.variant) := by
    have hvp := hp.variant
    have hvq := hq.variant
    cases hn : s.variant? with
    | none =>
      rw [hn] at hvp hvq
      rw [← Except.ok.inj hvp, ← Except.ok.inj hvq]
      simp
    | some name =>
      rw [hn] at hvp hvq
      simpa using Except.ok.inj (hvp.symm.trans hvq)
  have heq : p = q ↔ p.timeCost = q.timeCost ∧ p.memoryCost = q.memoryCost ∧
      p.parallelism = q.parallelism ∧ p.outputLength = q.outputLength ∧ p.variant = q.variant := by
    rw [← mk.injEq]
  rw [heq, hvariant, hp.timeCost, hq.timeCost, hp.memoryCost, hq.memoryCost, hp.parallelism,
    hq.parallelism, hp.outputLength, hq.outputLength]
  simp only [getD_eq_getD_iff]
  constructor
  · rintro ⟨ht, hm, hl, hn, hv⟩
    exact ⟨ht, hm, hl, hn, hv⟩
  · intro h
    exact ⟨h.timeCost, h.memoryCost, h.parallelism, h.outputLength, h.variant⟩

end Parameters

namespace Hasher

variable {s : Settings}

structure Silent (s : Settings) : Prop where
  maxOutputLength : s.maxOutputLength? = none
  timeCost : s.timeCost? = none
  memoryCost : s.memoryCost? = none
  parallelism : s.parallelism? = none
  outputLength : s.outputLength? = none
  variant : s.variant? = none

theorem configured_of_silent (hs : Silent s) (h : Hasher) :
    h.configured s = .ok { h with defaults := .standard } := by
  rw [configured_eq_ok_iff]
  refine ⟨by rw [hs.maxOutputLength]; rfl, ?_, rfl, rfl⟩
  exact ⟨by rw [hs.timeCost]; rfl, by rw [hs.memoryCost]; rfl, by rw [hs.parallelism]; rfl,
    by rw [hs.outputLength]; rfl, by rw [hs.variant]; rfl⟩

/-- A hasher that takes two settings one after the other takes them merged as well, with the same
ceiling, handle and version. But in the defaults the second settings then stand over what the first
ones gave, where otherwise they stand over the standard values. The two ways agree exactly where the
first settings left the standard value in all that the second do not set. Settings that set nothing
put the standard defaults in place of those of the hasher, and change nothing else. -/
theorem configured_configured :
    (∀ (h h₁ h₂ : Hasher) (a b : Settings),
      h.configured a = .ok h₁ → h₁.configured b = .ok h₂ →
      ∃ once, h.configured (a.merge b) = .ok once ∧ once.limits = h₂.limits ∧
        once.handle = h₂.handle ∧ once.encodedVersion = h₂.encodedVersion ∧
        once.defaults.SetOver h₁.defaults b ∧ h₂.defaults.SetOver .standard b ∧
        (once.defaults = h₂.defaults ↔ h₁.defaults.SameUnset .standard b)) ∧
    ∀ (h : Hasher) (s : Settings), Silent s →
      h.configured s = .ok { h with defaults := .standard } ∧
      (h.configured s = .ok h ↔ h.defaults = .standard) := by
  constructor
  · intro h h₁ h₂ a b ha hb
    have h₁a := configured_eq_ok_iff.mp ha
    have h₂b := configured_eq_ok_iff.mp hb
    obtain ⟨p, hp⟩ := h₂b.defaults.exists_over h₁.defaults
    refine ⟨{ h₂ with defaults := p }, ?_, rfl, rfl, rfl, hp, h₂b.defaults, ?_⟩
    · refine configured_eq_ok_iff.mpr ⟨?_, h₁a.defaults.merge hp, ?_, ?_⟩
      · rw [Settings.maxOutputLength?_merge, Option.getD_or, ← h₁a.maxOutputLength,
          ← h₂b.maxOutputLength]
      · exact h₂b.handle.trans h₁a.handle
      · exact h₂b.encodedVersion.trans h₁a.encodedVersion
    · exact hp.eq_iff h₂b.defaults
  · intro h s hs
    have hc := configured_of_silent hs h
    refine ⟨hc, ?_⟩
    rw [hc]
    constructor
    · intro heq
      rw [← Except.ok.inj heq]
    · intro hstandard
      rw [← hstandard]

/-- Settings with a ceiling, a cost and a variant, then others with a length; and none over a hasher
with limits and defaults of its own. -/
theorem configured_configured_argon2id :
    let h := ofHandle (.ofEntry Native.versioned)
    let a : Settings := {
      limits := some { maxOutputLength := some 64 }
      defaults := some { timeCost := some 3, variant := some "Argon2ID" } }
    let b : Settings := { defaults := some { outputLength := some 32 } }
    let limits : Limits := { maxOutputLength := 64 }
    let h₁ : Hasher := { h with limits, defaults := { timeCost := 3, variant := .argon2id } }
    let h₂ : Hasher := { h with limits, defaults := { outputLength := 32 } }
    let own : Hasher := h.withDefaults { timeCost := 3 }
    h.configured a = .ok h₁ ∧ h₁.configured b = .ok h₂ ∧
      (∃ once, h.configured (a.merge b) = .ok once ∧ once.limits = h₂.limits ∧
        once.defaults.SetOver h₁.defaults b) ∧
      Silent .empty ∧ own.configured .empty = .ok h := by
  intro h a b limits h₁ h₂ own
  have hname : Variant.ofText "Argon2ID" = .ok .argon2id := by decide +kernel
  have ha : h.configured a = .ok h₁ :=
    configured_eq_ok_iff.mpr ⟨rfl, ⟨rfl, rfl, rfl, rfl, hname⟩, rfl, rfl⟩
  have hb : h₁.configured b = .ok h₂ := rfl
  have hsilent : Silent .empty := ⟨rfl, rfl, rfl, rfl, rfl, rfl⟩
  obtain ⟨hmerged, hnothing⟩ := configured_configured
  obtain ⟨once, honce, hlimits, -, -, hdefaults, -⟩ := hmerged h h₁ h₂ a b ha hb
  exact ⟨ha, hb, ⟨once, honce, hlimits, hdefaults⟩, hsilent, (hnothing own .empty hsilent).1⟩

/-- A cost that was configured is forgotten with the next settings, though they set nothing, where
merged settings keep it. -/
theorem configured_forgets :
    let h := ofHandle (.ofEntry Native.versioned)
    let a : Settings := { defaults := some { timeCost := some 3 } }
    ∃ h₁ h₂ once, h.configured a = .ok h₁ ∧ h₁.configured .empty = .ok h₂ ∧
      h.configured (a.merge .empty) = .ok once ∧ once.defaults.timeCost = 3 ∧
      h₂.defaults.timeCost = 16 ∧ h₁.configured .empty ≠ .ok h₁ := by
  intro h a
  refine ⟨_, _, _, rfl, rfl, rfl, rfl, rfl, ?_⟩
  intro heq
  have hcost := congrArg (fun h => h.defaults.timeCost) (Except.ok.inj heq)
  exact absurd hcost (by decide)

end Hasher
end Argon2Native
