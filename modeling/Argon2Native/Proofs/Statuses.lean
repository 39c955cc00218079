import Argon2Native.Proofs.Hashing
import Mathlib.Data.List.Nodup
import Mathlib.Data.Set.Function
/-!
What is known of a status after it has become a result. Zero is the one success, and the failure of
any other number still holds the status that it came from, so nothing of the number is lost.

Main statement: `statuses_kept`.
-/
namespace Argon2Native.Status

variable {s t : Status} {f : Failure} {n : Int32}

theorem status?_of_check_error (h : s.check = .error f) : f.status? = some s := by
  unfold check at h
  split at h
  · cases h
  · cases h
    rfl
  · cases h
    rfl

/-- A result tells which status it was made from. -/
theorem check_inj (h : s.check = t.check) : s = t := by
  cases ht : t.check with
  | ok u =>
    rw [ht] at h
    rw [check_eq_ok_iff.mp h, check_eq_ok_iff.mp ht]
  | error f =>
    rw [ht] at h
    have hs := status?_of_check_error h
    rw [status?_of_check_error ht] at hs
    exact (Option.some.inj hs).symm

theorem ofCode_inj {m : Int32} (h : ofCode m = ofCode n) : m = n := by
  rw [← code_ofCode m, h, code_ofCode]

/-- The undocumented statuses are those that hold their number. -/
theorem mem_known_iff : s ∈ known ↔ ∀ code, s ≠ .unknown code := by
  cases s <;> simp [known]

theorem kind_eq_native_iff (h : s.check = .error f) : f.kind = .native ↔ s ∈ known := by
  unfold check at h
  split at h
  · cases h
  · cases h
    simp [Failure.kind, known]
  · next hunknown =>
    cases h
    simpa [Failure.kind, mem_known_iff] using hunknown

theorem ofCode_mem_known_iff : ofCode n ∈ known ↔ 0 ≤ n.toInt ∧ n.toInt < known.length := by
  have hunknown : Status.unknown n ∉ known := fun h => mem_known_iff.mp h n rfl
  by_cases hneg : n < 0
  · have hlt : n.toInt < 0 := by simpa [Int32.lt_iff_toInt_lt] using hneg
    rw [ofCode_of_lt hneg]
    exact iff_of_false hunknown (by omega)
  have hle : 0 ≤ n.toInt := by simpa [Int32.lt_iff_toInt_lt] using hneg
  by_cases hk : n.toInt.toNat < known.length
  · rw [ofCode_of_known hneg hk]
    exact iff_of_true (List.getElem_mem _) (by omega)
  · rw [ofCode_of_ge hneg (by omega)]
    exact iff_of_false hunknown (by omega)

/-- Of the numbers that are no success the documented ones fail as such. -/
theorem kind_of_check_ofCode (h : (ofCode n).check = .error f) :
    f.kind = if 1 ≤ n.toInt ∧ n.toInt < known.length then .native else .unknown := by
  have hne : n.toInt ≠ 0 := by
    intro hzero
    have hn : n = 0 := Int32.toInt_inj.mp hzero
    rw [check_ofCode_eq_ok_iff.mpr hn] at h
    cases h
  have hrange : 1 ≤ n.toInt ∧ n.toInt < known.length ↔ ofCode n ∈ known := by
    rw [ofCode_mem_known_iff]
    omega
  rw [← kind_eq_native_iff h] at hrange
  split
  · next hin => exact hrange.mp hin
  · next hout => exact (kind_of_check_error h).resolve_left fun hnative => hout (hrange.mpr hnative)

/-- No two documented statuses share a constant. -/
theorem constant_inj (hs : s ∈ known) (ht : t ∈ known) (h : s.constant = t.constant) : s = t := by
  have hnodup : (known.map constant).Nodup := by decide
  exact List.inj_on_of_nodup_map hnodup hs ht h

/-- A status keeps its number through its result: zero succeeds, and any other number fails with a
failure that still holds it, as a documented status or as an unknown one. Different numbers have
different results, and different documented numbers have different constants. -/
theorem statuses_kept :
    (∀ n : Int32, (ofCode n).code = n ∧ ((ofCode n).check = .ok () ↔ n = 0) ∧
      (n ≠ 0 → ∃ f, (ofCode n).check = .error f ∧ (∃ s, f.status? = some s ∧ s.code = n) ∧
        f.kind = if 1 ≤ n.toInt ∧ n.toInt < known.length then .native else .unknown)) ∧
    (Function.Injective fun n : Int32 => (ofCode n).check) ∧
    Set.InjOn (fun n : Int32 => (ofCode n).constant)
      {n | 0 ≤ n.toInt ∧ n.toInt < known.length} := by
  refine ⟨?_, ?_, ?_⟩
  · intro n
    refine ⟨code_ofCode n, check_ofCode_eq_ok_iff, ?_⟩
    intro hn
    obtain ⟨f, hf⟩ := exists_check_error hn
    exact ⟨f, hf, ⟨ofCode n, status?_of_check_error hf, code_ofCode n⟩, kind_of_check_ofCode hf⟩
  · intro m n h
    exact ofCode_inj (check_inj h)
  · intro m hm n hn h
    have hs := ofCode_mem_known_iff.mpr hm
    have ht := ofCode_mem_known_iff.mpr hn
    exact ofCode_inj (constant_inj hs ht h)

/-- The first number after the documented ones. -/
theorem statuses_kept_undocumented :
    (33 : Int32) ≠ 0 ∧ ∃ f, (ofCode 33).check = .error f ∧ (∃ s, f.status? = some s ∧ s.code = 33) ∧
      f.kind = .unknown := by
  have hne : (33 : Int32) ≠ 0 := by decide
  obtain ⟨f, hf, hstatus, hkind⟩ := (statuses_kept.1 33).2.2 hne
  exact ⟨hne, f, hf, hstatus, hkind⟩

end Argon2Native.Status
