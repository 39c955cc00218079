import Argon2Native.Config.Settings
/-!
Valid settings. Every rule looks only at values that are set, so settings that set nothing are
valid, and the one rule that joins two values needs both.

Main statement: `validate_eq_ok_iff`.
-/
namespace Argon2Native.Config

theorem ceilingFault?_eq_none_iff {n : Nat} :
    ceilingFault? n = none ↔ leastOutputLength ≤ n ∧ n ≤ mostOutputLength := by
  simp [ceilingFault?]

theorem costFault?_eq_none_iff {cost : UInt32} : costFault? cost = none ↔ cost ≠ 0 := by
  simp [costFault?]

theorem lengthFault?_eq_none_iff {ceiling : Option Nat} {n : Nat} :
    lengthFault? ceiling n = none ↔
      leastOutputLength ≤ n ∧ ∀ most, ceiling = some most → n ≤ most := by
  unfold lengthFault?
  split
  · simp; omega
  · cases ceiling with
    | none => simp; omega
    | some most => simp; omega

theorem variantFault?_eq_none_iff {name : String} :
    variantFault? name = none ↔ ∃ v : Variant, name = v.name := by
  simp [variantFault?, Option.isSome_iff_exists, Variant.named?_eq_some_iff]

namespace Settings

structure Valid (s : Settings) : Prop where
  maxOutputLength : ∀ n, s.maxOutputLength? = some n →
    leastOutputLength ≤ n ∧ n ≤ mostOutputLength
  timeCost : ∀ cost, s.timeCost? = some cost → cost ≠ 0
  memoryCost : ∀ cost, s.memoryCost? = some cost → cost ≠ 0
  parallelism : ∀ cost, s.parallelism? = some cost → cost ≠ 0
  outputLength : ∀ n, s.outputLength? = some n →
    leastOutputLength ≤ n ∧ ∀ most, s.maxOutputLength? = some most → n ≤ most
  variant : ∀ name, s.variant? = some name → ∃ v : Variant, name = v.name

theorem faults_eq_nil_iff {s : Settings} : s.faults = [] ↔ s.Valid := by
  simp only [faults, List.filterMap_eq_nil_iff, List.forall_mem_cons, List.not_mem_nil,
    false_implies, implies_true, and_true, Option.map_eq_none_iff, Option.bind_eq_none_iff,
    ceilingFault?_eq_none_iff, costFault?_eq_none_iff, lengthFault?_eq_none_iff,
    variantFault?_eq_none_iff]
  constructor
  · intro ⟨hmost, htime, hmemory, hlanes, hlength, hvariant⟩
    exact ⟨hmost, htime, hmemory, hlanes, hlength, hvariant⟩
  · intro h
    exact ⟨h.maxOutputLength, h.timeCost, h.memoryCost, h.parallelism, h.outputLength, h.variant⟩

theorem validate_eq_ok_iff {s : Settings} : s.validate = .ok () ↔ s.Valid := by
  rw [← faults_eq_nil_iff, validate]
  cases s.faults with
  | nil => simp
  | cons fault faults => simp

end Settings
end Argon2Native.Config
