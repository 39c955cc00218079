import Argon2Native.Text.Unicode
import Mathlib.Tactic.Common
/-!
The two ways to lowercase. They differ only where a text has characters beyond ASCII, and of these
the full mapping brings none down to ASCII but the Kelvin sign, which becomes a `k`. So a text of
ASCII without that letter comes out of both ways from the same texts.

Main statement: `full_eq_iff`.
-/
namespace Argon2Native

namespace CaseTable

def Run.StaysBeyond (r : Run) : Prop :=
  128 ≤ r.first + r.shift ∧
    (r.last + r.shift < 0xD800 ∨ 0xDFFF < r.first + r.shift ∧ r.last + r.shift < 0x110000)

instance (r : Run) : Decidable r.StaysBeyond := inferInstanceAs (Decidable (_ ∧ _))

theorem Run.bounds_of_holds {r : Run} {n : Nat} (h : r.holds n) : r.first ≤ n ∧ n ≤ r.last := by
  simp only [holds, Bool.and_eq_true, decide_eq_true_eq] at h
  exact h.1

def letters : Run := ⟨0x41, 0x5A, 1, 32⟩

theorem lowercaseRuns_eq : lowercaseRuns = letters :: lowercaseRuns.tail := rfl

/-- After that of the ASCII letters all runs start beyond ASCII, and all but that of the Kelvin sign
stay there. -/
theorem beyond_of_mem_tail : ∀ r ∈ lowercaseRuns.tail, 128 ≤ r.first ∧
    (r.first = 0x212A ∧ r.last = 0x212A ∧ r.shift = -8383 ∨ r.StaysBeyond) := by
  decide +kernel

end CaseTable

namespace Lowercase

open CaseTable

/-- An ASCII character, but not the one that the Kelvin sign becomes. -/
def IsPlain (c : Char) : Prop := c.toNat < 128 ∧ c ≠ 'k'

instance (c : Char) : Decidable (IsPlain c) := inferInstanceAs (Decidable (_ ∧ _))

theorem simple_of_ascii {c : Char} (hc : c.toNat < 128) : simple c = c.toLower := by
  have hletters : ∀ n < 128, (if letters.holds n then Char.ofNat (n + 32) else Char.ofNat n) =
      (Char.ofNat n).toLower := by decide
  have hlower := hletters c.toNat hc
  have hnone : lowercaseRuns.tail.find? (·.holds c.toNat) = none := by
    refine List.find?_eq_none.mpr fun r hr hholds => ?_
    have hfirst := (beyond_of_mem_tail r hr).1
    have hle := (Run.bounds_of_holds hholds).1
    omega
  rw [Char.ofNat_toNat] at hlower
  rw [simple, lowercaseRuns_eq, List.find?_cons, hnone, ← hlower]
  cases letters.holds c.toNat <;> rfl

theorem lt_of_toLower {c : Char} (hc : c.toLower.toNat < 128) : c.toNat < 128 := by
  unfold Char.toLower at hc
  split at hc
  · rename_i h
    exact Nat.lt_of_le_of_lt h.2 (by decide)
  · exact hc

/-- What a run makes of a character beyond ASCII is none that is plain. -/
theorem not_isPlain_simple {c : Char} (hc : 128 ≤ c.toNat) : ¬IsPlain (simple c) := by
  rw [simple]
  split
  · rename_i run hrun
    have hholds := List.find?_some hrun
    have hbounds := Run.bounds_of_holds hholds
    have hmem := List.mem_of_find?_eq_some hrun
    rw [lowercaseRuns_eq] at hmem
    rcases List.mem_cons.mp hmem with rfl | hmem
    · have hlast : letters.last < 128 := by decide
      omega
    rcases (beyond_of_mem_tail run hmem).2 with ⟨hfirst, hlast, hshift⟩ | ⟨hfirst, hvalid⟩
    · -- the Kelvin sign
      have hk : (c.toNat + run.shift).toNat = 0x6B := by omega
      rw [hk]
      exact fun h => h.2 rfl
    · have hn : (c.toNat + run.shift).toNat.isValidChar := by
        unfold Nat.isValidChar
        omega
      intro h
      have hlt := h.1
      rw [Char.ofNat, dif_pos hn] at hlt
      change (c.toNat + run.shift).toNat < 128 at hlt
      omega
  · exact fun h => absurd h.1 (by omega)

theorem form_of_ascii {c : Char} (hc : c.toNat < 128) (before after : List Char) :
    form before c after = [c.toLower] := by
  rw [form, if_neg, if_neg, simple_of_ascii hc]
  · rintro rfl
    exact absurd hc (by decide)
  · rintro rfl
    exact absurd hc (by decide)

theorem ascii_of_form {c : Char} {before after : List Char}
    (h : ∀ d ∈ form before c after, IsPlain d) : c.toNat < 128 := by
  by_contra hc
  rw [form] at h
  split at h
  · exact absurd (h '\u0307' (by simp)).1 (by decide)
  · split at h
    · have hsigma := h _ (List.mem_singleton.mpr rfl)
      split at hsigma
      · exact absurd hsigma.1 (by decide)
      · exact absurd hsigma.1 (by decide)
    · exact not_isPlain_simple (Nat.not_lt.mp hc) (h _ (List.mem_singleton.mpr rfl))

theorem formsAfter_of_ascii {cs : List Char} (hcs : ∀ c ∈ cs, c.toNat < 128) (before : List Char) :
    formsAfter before cs = cs.map Char.toLower := by
  induction cs generalizing before with
  | nil => rfl
  | cons c cs ih =>
    rw [List.forall_mem_cons] at hcs
    rw [formsAfter, form_of_ascii hcs.1, ih hcs.2]
    rfl

theorem ascii_of_formsAfter {cs before : List Char}
    (h : ∀ d ∈ formsAfter before cs, IsPlain d) : ∀ c ∈ cs, c.toNat < 128 := by
  induction cs generalizing before with
  | nil => simp
  | cons c cs ih =>
    rw [formsAfter, List.forall_mem_append] at h
    exact List.forall_mem_cons.mpr ⟨ascii_of_form h.1, ih h.2⟩

/-- The two ways agree on what becomes of a text where it becomes plain. -/
theorem full_eq_iff {s t : String} (ht : ∀ c ∈ t.toList, IsPlain c) : full s = t ↔ ascii s = t := by
  have heq (hs : ∀ c ∈ s.toList, c.toNat < 128) : full s = ascii s := by
    rw [full, formsAfter_of_ascii hs, ← String.toList_inj, String.toList_ofList, ascii,
      String.toList_map]
  constructor
  · rintro rfl
    rw [full, String.toList_ofList] at ht
    exact (heq (ascii_of_formsAfter ht)).symm
  · rintro rfl
    refine heq fun c hc => lt_of_toLower ?_
    rw [ascii, String.toList_map] at ht
    exact (ht _ (List.mem_map_of_mem hc)).1

/-- Of a text that is not plain this need not hold. -/
example : full "\u212Aey" = "key" ∧ ascii "\u212Aey" ≠ "key" := by decide +kernel

end Lowercase
end Argon2Native
