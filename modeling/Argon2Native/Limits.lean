import Argon2Native.Failure
/-!
Bounds on the number of octets that a hash may have.

Main statement: `ofMax_eq_ok_iff`, every ceiling between the shortest and the longest native output
is accepted as given, and no other.
-/
namespace Argon2Native

def leastOutputLength : Nat := 4

def mostOutputLength : Nat := UInt32.size - 1

structure Limits where
  maxOutputLength : Nat
  least_le : leastOutputLength ≤ maxOutputLength := by decide
  le_most : maxOutputLength ≤ mostOutputLength := by decide
  deriving DecidableEq

namespace Limits

def standard : Limits where
  maxOutputLength := 1024 * 1024

def ofMax (n : Nat) : Except Failure Limits :=
  if h : leastOutputLength ≤ n ∧ n ≤ mostOutputLength then .ok ⟨n, h.1, h.2⟩
  else .error (.invalidParameter "max_output_len"
    (.outsideRange leastOutputLength mostOutputLength n))

theorem ofMax_eq_ok_iff {n : Nat} {limits : Limits} :
    ofMax n = .ok limits ↔ n = limits.maxOutputLength := by
  unfold ofMax
  constructor
  · intro h
    split at h
    · cases h; rfl
    · cases h
  · rintro rfl
    rw [dif_pos ⟨limits.least_le, limits.le_most⟩]

def checkLength (limits : Limits) (n : Nat) : Except Failure Unit :=
  if n < leastOutputLength then
    .error (.invalidParameter "output_len" (.tooShort leastOutputLength n))
  else if limits.maxOutputLength < n then
    .error (.invalidParameter "output_len" (.tooLong limits.maxOutputLength n))
  else .ok ()

theorem checkLength_eq_ok_iff {limits : Limits} {n : Nat} :
    limits.checkLength n = .ok () ↔ leastOutputLength ≤ n ∧ n ≤ limits.maxOutputLength := by
  unfold checkLength
  constructor
  · intro h
    split at h
    · cases h
    · split at h
      · cases h
      · omega
  · rintro ⟨h, h'⟩
    rw [if_neg (by omega), if_neg (by omega)]

end Limits
end Argon2Native
