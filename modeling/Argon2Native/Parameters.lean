import Argon2Native.Config.Settings
import Argon2Native.Text.Unicode
/-!
The parameters of one hash: costs, output length and variant.

Main statement: `validate_eq_ok_iff`, parameters are valid when each cost is at least one and the
length is within the limits.
-/
namespace Argon2Native

def Variant.ofText (s : String) : Except Failure Variant :=
  match named? (Lowercase.ascii s) with
  | some v => .ok v
  | none => .error (.invalidParameter "variant" (.noVariant (Lowercase.ascii s)))

structure Parameters where
  timeCost : UInt32 := 16
  memoryCost : UInt32 := 8
  parallelism : UInt32 := 1
  outputLength : Nat := 128
  variant : Variant := .argon2i
  deriving DecidableEq

namespace Parameters

def standard : Parameters := {}

def ofSettings (s : Config.Settings) : Except Failure Parameters := do
  let variant ← match s.variant? with
    | some name => Variant.ofText name
    | none => .ok standard.variant
  return {
    timeCost := s.timeCost?.getD standard.timeCost
    memoryCost := s.memoryCost?.getD standard.memoryCost
    parallelism := s.parallelism?.getD standard.parallelism
    outputLength := s.outputLength?.getD standard.outputLength
    variant }

def checkCost (field : String) (cost : UInt32) : Except Failure Unit :=
  if cost = 0 then .error (.invalidParameter field .belowOne) else .ok ()

def validate (p : Parameters) (limits : Limits) : Except Failure Unit := do
  checkCost "time_cost" p.timeCost
  checkCost "memory_cost" p.memoryCost
  checkCost "parallelism" p.parallelism
  limits.checkLength p.outputLength

theorem checkCost_bind_eq_ok_iff {field : String} {cost : UInt32} {next : Except Failure Unit} :
    (checkCost field cost >>= fun _ => next) = .ok () ↔ cost ≠ 0 ∧ next = .ok () := by
  unfold checkCost
  split
  · simp_all [bind, Except.bind]
  · simp_all [bind, Except.bind]

theorem validate_eq_ok_iff {p : Parameters} {limits : Limits} :
    p.validate limits = .ok () ↔
      p.timeCost ≠ 0 ∧ p.memoryCost ≠ 0 ∧ p.parallelism ≠ 0 ∧
        leastOutputLength ≤ p.outputLength ∧ p.outputLength ≤ limits.maxOutputLength := by
  unfold validate
  rw [checkCost_bind_eq_ok_iff, checkCost_bind_eq_ok_iff, checkCost_bind_eq_ok_iff,
    Limits.checkLength_eq_ok_iff]

def describe (p : Parameters) : String :=
  "HashOptions \x7b time_cost: " ++ toString p.timeCost.toNat ++
  ", memory_cost: " ++ toString p.memoryCost.toNat ++
  ", parallelism: " ++ toString p.parallelism.toNat ++
  ", output_len: " ++ toString p.outputLength ++
  ", variant: " ++ p.variant.label ++ " \x7d"

end Parameters
end Argon2Native
