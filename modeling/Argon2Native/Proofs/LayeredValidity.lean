import Argon2Native.Proofs.Merging
import Argon2Native.Proofs.Validation
/-!
Validity and layers. A rule that looks at one value holds of the value that wins if it holds in each
layer. The one rule that looks at two, that a hash is no longer than the ceiling, can break when the
two come from different layers, and it is the only one that can.

Main statement: `validate_mergeAll`.
-/
namespace Argon2Native.Config

/-- What holds of the values in two layers holds of the one that wins. -/
theorem forall_of_or {α : Type} {P : α → Prop} {upper lower : Option α}
    (hu : ∀ a, upper = some a → P a) (hl : ∀ a, lower = some a → P a) :
    ∀ a, upper.or lower = some a → P a := by
  intro a h
  rw [Option.or_eq_some_iff] at h
  obtain h | ⟨-, h⟩ := h
  · exact hu a h
  · exact hl a h

namespace Settings

/-- The rules that look at one value each. -/
structure ValidEach (s : Settings) : Prop where
  maxOutputLength : ∀ n, s.maxOutputLength? = some n →
    leastOutputLength ≤ n ∧ n ≤ mostOutputLength
  timeCost : ∀ cost, s.timeCost? = some cost → cost ≠ 0
  memoryCost : ∀ cost, s.memoryCost? = some cost → cost ≠ 0
  parallelism : ∀ cost, s.parallelism? = some cost → cost ≠ 0
  outputLength : ∀ n, s.outputLength? = some n → leastOutputLength ≤ n
  variant : ∀ name, s.variant? = some name → ∃ v : Variant, name = v.name

variable {s base top : Settings} {layers : List Settings}

theorem Valid.validEach (h : s.Valid) : s.ValidEach where
  maxOutputLength := h.maxOutputLength
  timeCost := h.timeCost
  memoryCost := h.memoryCost
  parallelism := h.parallelism
  outputLength := fun n hn => (h.outputLength n hn).1
  variant := h.variant

theorem validEach_empty : ValidEach empty := by
  constructor <;> exact nofun

theorem ValidEach.merge (hbase : base.ValidEach) (htop : top.ValidEach) :
    (base.merge top).ValidEach where
  maxOutputLength := by
    rw [maxOutputLength?_merge]
    exact forall_of_or htop.maxOutputLength hbase.maxOutputLength
  timeCost := by
    rw [timeCost?_merge]
    exact forall_of_or htop.timeCost hbase.timeCost
  memoryCost := by
    rw [memoryCost?_merge]
    exact forall_of_or htop.memoryCost hbase.memoryCost
  parallelism := by
    rw [parallelism?_merge]
    exact forall_of_or htop.parallelism hbase.parallelism
  outputLength := by
    rw [outputLength?_merge]
    exact forall_of_or htop.outputLength hbase.outputLength
  variant := by
    rw [variant?_merge]
    exact forall_of_or htop.variant hbase.variant

theorem ValidEach.mergeAll (h : ∀ s ∈ layers, s.ValidEach) : (mergeAll layers).ValidEach := by
  induction layers using List.reverseRecOn with
  | nil => exact validEach_empty
  | append_singleton layers top ih =>
    rw [mergeAll_concat]
    refine (ih fun s hs => h s ?_).merge (h top ?_)
    · exact List.mem_append_left _ hs
    · exact List.mem_append_right _ List.mem_cons_self

/-- Where each value is valid by itself, the ceiling is all that is left to check. -/
theorem ValidEach.faults_eq (h : s.ValidEach) : s.faults =
    ((s.outputLength?.bind (lengthFault? s.maxOutputLength?)).map
      ("defaults.output_len", ·)).toList := by
  have hmost : s.maxOutputLength?.bind ceilingFault? = none :=
    Option.bind_eq_none_iff.mpr fun n hn => ceilingFault?_eq_none_iff.mpr (h.maxOutputLength n hn)
  have hcost {cost? : Option UInt32} (hc : ∀ cost, cost? = some cost → cost ≠ 0) :
      cost?.bind costFault? = none :=
    Option.bind_eq_none_iff.mpr fun cost he => costFault?_eq_none_iff.mpr (hc cost he)
  have hvariant : s.variant?.bind variantFault? = none :=
    Option.bind_eq_none_iff.mpr fun name hn => variantFault?_eq_none_iff.mpr (h.variant name hn)
  rw [faults, hmost, hcost h.timeCost, hcost h.memoryCost, hcost h.parallelism, hvariant]
  cases s.outputLength?.bind (lengthFault? s.maxOutputLength?) <;> rfl

theorem ValidEach.validate_eq_error_iff (h : s.ValidEach) {f : Failure} :
    s.validate = .error f ↔ ∃ n most, s.outputLength? = some n ∧ s.maxOutputLength? = some most ∧
      most < n ∧ f = .invalid "defaults.output_len" (.overCeiling most) := by
  rw [validate, h.faults_eq]
  cases hn : s.outputLength? with
  | none => simp
  | some n =>
    have hleast : ¬n < leastOutputLength := Nat.not_lt.mpr (h.outputLength n hn)
    cases hm : s.maxOutputLength? with
    | none => simp [lengthFault?, hleast]
    | some most =>
      by_cases hlt : most < n
      · simp [lengthFault?, hleast, hlt, eq_comm]
      · simp [lengthFault?, hleast, hlt]

/-- Layers that are valid, each by itself, are valid together unless the last length that they set
is above the last ceiling that they set; and then that is the fault that is reported. -/
theorem validate_mergeAll (h : ∀ s ∈ layers, s.validate = .ok ()) :
    ((mergeAll layers).validate = .ok () ∨ ∃ most, (mergeAll layers).validate =
      .error (.invalid "defaults.output_len" (.overCeiling most))) ∧
    ∀ f, (mergeAll layers).validate = .error f ↔
      ∃ n most, LastSet outputLength? layers (some n) ∧
        LastSet maxOutputLength? layers (some most) ∧ most < n ∧
        f = .invalid "defaults.output_len" (.overCeiling most) := by
  have heach : (mergeAll layers).ValidEach :=
    ValidEach.mergeAll fun s hs => (validate_eq_ok_iff.mp (h s hs)).validEach
  have hlast := lastWins_mergeAll layers
  constructor
  · cases hr : (mergeAll layers).validate with
    | ok u => exact .inl rfl
    | error f =>
      obtain ⟨n, most, -, -, -, rfl⟩ := heach.validate_eq_error_iff.mp hr
      exact .inr ⟨most, rfl⟩
  · intro f
    simp only [heach.validate_eq_error_iff, hlast.outputLength.eq_some_iff,
      hlast.maxOutputLength.eq_some_iff]

/-- Three layers, valid each by itself. The middle one sets a length within its own ceiling, and the
last one a lower ceiling. -/
theorem validate_mergeAll_lowered :
    let user : Settings := { defaults := some { variant := some "argon2id" } }
    let project : Settings := {
      limits := some { maxOutputLength := some 64 }
      defaults := some { outputLength := some 64 } }
    let override : Settings := { limits := some { maxOutputLength := some 32 } }
    let layers := [user, project, override]
    (∀ s ∈ layers, s.validate = .ok ()) ∧
      LastSet outputLength? layers (some 64) ∧ LastSet maxOutputLength? layers (some 32) ∧
      (mergeAll layers).validate = .error (.invalid "defaults.output_len" (.overCeiling 32)) := by
  intro user project override layers
  have hvalid : ∀ s ∈ layers, s.validate = .ok () := by decide +kernel
  have hlength : LastSet outputLength? layers (some 64) := lastSet_iff.mpr rfl
  have hmost : LastSet maxOutputLength? layers (some 32) := lastSet_iff.mpr rfl
  refine ⟨hvalid, hlength, hmost, ((validate_mergeAll hvalid).2 _).mpr ?_⟩
  exact ⟨64, 32, hlength, hmost, by decide, rfl⟩

end Settings
end Argon2Native.Config
