import Argon2Native.Proofs.Room
import Mathlib.Algebra.Order.Floor.Div
import Mathlib.Data.Nat.Digits.Defs
import Mathlib.Data.UInt
import Mathlib.GroupTheory.GroupAction.Ring
/-!
Sizes as they are computed in 64-bit words. A computation is kept as the operations it consists of,
so that each one can be asked whether it overflows. The length of a base64 text is computed without
an overflow as far as it has a 64-bit size, and the room for an encoded text in all cases that a
request can come to.

Main statement: `sizes_fit_words`.
-/
namespace Argon2Native

inductive Size where
  | word (n : UInt64)
  | product (m n : UInt64)
  | sum (a b : Size)

namespace Size

instance : Add Size := ⟨sum⟩

instance {n : Nat} : OfNat Size n := ⟨word (OfNat.ofNat n)⟩

def wrapped : Size → UInt64
  | word n => n
  | product m n => m * n
  | sum a b => a.wrapped + b.wrapped

def exact : Size → Nat
  | word n => n.toNat
  | product m n => m.toNat * n.toNat
  | sum a b => a.exact + b.exact

def Fits : Size → Prop
  | word _ => True
  | product m n => m.toNat * n.toNat < 2 ^ 64
  | sum a b => a.Fits ∧ b.Fits ∧ a.wrapped.toNat + b.wrapped.toNat < 2 ^ 64

/-- Up to the first overflow the words are exact. -/
theorem Fits.toNat_wrapped {s : Size} (h : s.Fits) : s.wrapped.toNat = s.exact := by
  induction s with
  | word n => rfl
  | product m n => rw [wrapped, UInt64.toNat_mul, Nat.mod_eq_of_lt h, exact]
  | sum a b iha ihb =>
    obtain ⟨ha, hb, hlt⟩ := h
    rw [wrapped, UInt64.toNat_add, Nat.mod_eq_of_lt hlt, iha ha, ihb hb, exact]

/-- Sums only grow, so it is enough to look at the last one. -/
theorem fits_iff {s : Size} : s.Fits ↔ s.exact < 2 ^ 64 := by
  induction s with
  | word n => exact iff_of_true trivial n.toNat_lt
  | product m n => exact Iff.rfl
  | sum a b iha ihb =>
    rw [Fits, exact]
    constructor
    · rintro ⟨ha, hb, hlt⟩
      rwa [ha.toNat_wrapped, hb.toNat_wrapped] at hlt
    · intro hlt
      have ha := iha.mpr (by omega)
      have hb := ihb.mpr (by omega)
      exact ⟨ha, hb, by rwa [ha.toNat_wrapped, hb.toNat_wrapped]⟩

end Size

namespace Base64

def textSize (n : UInt64) : Size :=
  .product (n / 3) 4 + .word (if n % 3 = 0 then 0 else if n % 3 = 1 then 2 else 3)

theorem wrapped_textSize (n : UInt64) : (textSize n).wrapped = textLengthWord n := rfl

theorem textLength_eq_ceilDiv (n : Nat) : textLength n = (4 * n) ⌈/⌉ 3 := by
  have hr : n % 3 = 0 ∨ n % 3 = 1 ∨ n % 3 = 2 := by omega
  rw [Nat.ceilDiv_eq_add_pred_div, textLength]
  rcases hr with hr | hr | hr <;> simp only [hr] <;> omega

theorem exact_textSize (n : UInt64) : (textSize n).exact = textLength n.toNat := by
  have hlt : textLength (n.toNat % 3) < 2 ^ 64 := by
    rw [textLength_eq_ceilDiv, Nat.ceilDiv_eq_add_pred_div]
    omega
  calc (textSize n).exact
    _ = (n / 3).toNat * 4 + (UInt64.ofNat (textLength (n.toNat % 3))).toNat := by
      rw [textSize, rest_eq_ofNat]
      rfl
    _ = n.toNat / 3 * 4 + textLength (n.toNat % 3) := by
      rw [UInt64.toNat_ofNat_of_lt' hlt, UInt64.toNat_div]
      rfl
    _ = textLength n.toNat := (textLength_eq_add n.toNat).symm

theorem fits_textSize_iff {n : UInt64} : (textSize n).Fits ↔ n.toNat < 3 * 2 ^ 62 := by
  rw [Size.fits_iff, exact_textSize, textLength_eq_ceilDiv, Nat.ceilDiv_eq_add_pred_div]
  omega

end Base64

theorem Decimal.digitCount_le (n : UInt32) : digitCount n.toNat ≤ 10 :=
  Nat.toDigits_length 10 n.toNat 10 (by decide) (n.toNat_lt.trans (by decide))

namespace EncodedHash

variable (variant : Variant) (timeCost memoryCost parallelism : UInt32)
  (saltLength outputLength : UInt64)

def bufferSize : Size :=
  let digits (n : UInt32) : Size := .word (Decimal.digitCount n.toNat).toUInt64
  1 + .word variant.name.length.toUInt64 + 3 + digits referenceVersion +
  3 + digits memoryCost + 3 + digits timeCost + 3 + digits parallelism +
  1 + Base64.textSize saltLength + 1 + Base64.textSize outputLength + 1

theorem wrapped_bufferSize :
    (bufferSize variant timeCost memoryCost parallelism saltLength outputLength).wrapped =
      bufferLengthWord variant timeCost memoryCost parallelism saltLength outputLength := rfl

theorem exact_bufferSize :
    (bufferSize variant timeCost memoryCost parallelism saltLength outputLength).exact =
      bufferLength variant timeCost memoryCost parallelism saltLength.toNat
        outputLength.toNat := by
  have hdigits (n : UInt32) :
      (Decimal.digitCount n.toNat).toUInt64.toNat = Decimal.digitCount n.toNat :=
    UInt64.toNat_ofNat_of_lt' ((Decimal.digitCount_le n).trans_lt (by decide))
  have hname : variant.name.length.toUInt64.toNat = variant.name.length := by
    cases variant <;> decide
  change 1 + variant.name.length.toUInt64.toNat + 3 +
    (Decimal.digitCount referenceVersion.toNat).toUInt64.toNat + 3 +
    (Decimal.digitCount memoryCost.toNat).toUInt64.toNat + 3 +
    (Decimal.digitCount timeCost.toNat).toUInt64.toNat + 3 +
    (Decimal.digitCount parallelism.toNat).toUInt64.toNat + 1 + (Base64.textSize saltLength).exact +
    1 + (Base64.textSize outputLength).exact + 1 = _
  simp only [hdigits, hname, Base64.exact_textSize, bufferLength]

/-- No salt is longer than the longest allocation, and no output than the highest limit: together
they stay well below the top. -/
theorem fits_bufferSize (hs : saltLength.toNat ≤ 2 ^ 63 - 1)
    (ho : outputLength.toNat ≤ 2 ^ 32 - 1) :
    (bufferSize variant timeCost memoryCost parallelism saltLength outputLength).Fits := by
  have hname : variant.name.length ≤ 8 := by cases variant <;> decide
  have hversion := Decimal.digitCount_le referenceVersion
  have hmemory := Decimal.digitCount_le memoryCost
  have htime := Decimal.digitCount_le timeCost
  have hlanes := Decimal.digitCount_le parallelism
  rw [Size.fits_iff, exact_bufferSize, bufferLength, Base64.textLength_eq_ceilDiv,
    Base64.textLength_eq_ceilDiv, Nat.ceilDiv_eq_add_pred_div, Nat.ceilDiv_eq_add_pred_div]
  omega

end EncodedHash

open Base64 EncodedHash Native

/-- A size that was computed without overflow is the one that is allocated. -/
theorem encodedLength?_ofRequest {request : Request}
    (hs : request.salt.length < 2 ^ 64) (ho : request.parameters.outputLength < 2 ^ 64) :
    let p := request.parameters
    let size := bufferSize p.variant p.timeCost p.memoryCost p.parallelism
      request.salt.length.toUInt64 p.outputLength.toUInt64
    size.Fits → (Call.ofRequest request true).encodedLength? = some size.wrapped.toNat := by
  intro p size hfits
  rw [hfits.toNat_wrapped, exact_bufferSize, UInt64.toNat_ofNat_of_lt' hs,
    UInt64.toNat_ofNat_of_lt' ho]
  rfl

/-- The length of a base64 text overflows in no step exactly for inputs below `3 * 2 ^ 62`, and is
then the exact one. The room for an encoded text overflows in no step for salts up to the longest
allocation and outputs up to the highest limit, so what is allocated for a valid request is the
length of the text with its final zero octet. -/
theorem sizes_fit_words :
    (∀ n : UInt64,
      (textSize n).wrapped = textLengthWord n ∧
      ((textSize n).Fits ↔ n.toNat < 3 * 2 ^ 62) ∧
      ((textSize n).Fits → (textLengthWord n).toNat = (4 * n.toNat) ⌈/⌉ 3)) ∧
    (∀ (variant : Variant) (timeCost memoryCost parallelism : UInt32)
      (saltLength outputLength : UInt64),
      let size := bufferSize variant timeCost memoryCost parallelism saltLength outputLength
      size.wrapped =
        bufferLengthWord variant timeCost memoryCost parallelism saltLength outputLength ∧
      (saltLength.toNat ≤ 2 ^ 63 - 1 → outputLength.toNat ≤ 2 ^ 32 - 1 → size.Fits)) ∧
    ∀ (request : Request) (limits : Limits),
      request.salt.length ≤ 2 ^ 63 - 1 → request.validate limits = .ok () →
      let p := request.parameters
      let size := bufferSize p.variant p.timeCost p.memoryCost p.parallelism
        request.salt.length.toUInt64 p.outputLength.toUInt64
      p.outputLength ≤ 2 ^ 32 - 1 ∧ size.Fits ∧
      (Call.ofRequest request true).encodedLength? = some size.wrapped.toNat ∧
      ∀ hash : Bytes, hash.length = p.outputLength →
        size.wrapped.toNat = (render ⟨p.variant, some referenceVersion, p.memoryCost, p.timeCost,
          p.parallelism, request.salt, hash⟩).utf8ByteSize + 1 := by
  refine ⟨?_, ?_, ?_⟩
  · intro n
    refine ⟨wrapped_textSize n, fits_textSize_iff, ?_⟩
    intro hfits
    rw [← wrapped_textSize, hfits.toNat_wrapped, exact_textSize, textLength_eq_ceilDiv]
  · intro variant timeCost memoryCost parallelism saltLength outputLength size
    exact ⟨wrapped_bufferSize .., fun hs ho => fits_bufferSize _ _ _ _ _ _ hs ho⟩
  · intro request limits hsalt hvalid p size
    obtain ⟨-, -, -, -, hle⟩ := Parameters.validate_eq_ok_iff.mp hvalid
    have hmost : p.outputLength ≤ 2 ^ 32 - 1 := hle.trans limits.le_most
    have hs : request.salt.length < 2 ^ 64 := by omega
    have ho : p.outputLength < 2 ^ 64 := by omega
    have hfits : size.Fits := fits_bufferSize _ _ _ _ _ _
      (by rwa [UInt64.toNat_ofNat_of_lt' hs]) (by rwa [UInt64.toNat_ofNat_of_lt' ho])
    refine ⟨hmost, hfits, encodedLength?_ofRequest hs ho hfits, ?_⟩
    intro hash hlength
    rw [← bufferLength_eq, hlength, hfits.toNat_wrapped, exact_bufferSize,
      UInt64.toNat_ofNat_of_lt' hs, UInt64.toNat_ofNat_of_lt' ho]

/-- The longest input with a 64-bit text takes every word there is; one more wraps. -/
theorem sizes_fit_words_longest :
    let n : UInt64 := 3 * 2 ^ 62 - 1
    let p : Parameters := { outputLength := 32, variant := .argon2id }
    let request : Request := ⟨Bytes.ofText "password", List.replicate 16 7, p⟩
    (textSize n).Fits ∧ (textLengthWord n).toNat = 2 ^ 64 - 1 ∧ ¬(textSize (n + 1)).Fits ∧
    textLengthWord (n + 1) = 0 ∧
    (bufferSize .argon2id 1 (2 ^ 32 - 1) 1 (2 ^ 63 - 1) (2 ^ 32 - 1)).Fits ∧
    request.validate .standard = .ok () ∧
    (Call.ofRequest request true).encodedLength? = some 95 := by
  intro n p request
  obtain ⟨htext, hbuffer, hrequest⟩ := sizes_fit_words
  obtain ⟨-, hn, hlength⟩ := htext n
  obtain ⟨-, hnext, -⟩ := htext (n + 1)
  have hfits := hn.mpr (by decide +kernel)
  have hvalid : request.validate .standard = .ok () := by decide
  obtain ⟨-, -, hsize, -⟩ := hrequest request .standard (by decide) hvalid
  have hroom := (hbuffer .argon2id 1 (2 ^ 32 - 1) 1 (2 ^ 63 - 1) (2 ^ 32 - 1)).2
    (by decide +kernel) (by decide +kernel)
  refine ⟨hfits, (hlength hfits).trans (by decide +kernel), ?_, by decide +kernel, hroom, hvalid,
    hsize.trans (by decide +kernel)⟩
  intro h
  exact absurd (hnext.mp h) (by decide +kernel)

end Argon2Native
