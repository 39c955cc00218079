import Argon2Native.Proofs.RoundTrip
import Mathlib.Algebra.Group.Nat.Defs
/-!
Room for the encoded text. The size that is asked for is that of the text with the reference version
and its final zero octet, and more than that of a text without a version, so asking for a text
changes nothing else about a hash.

Main statement: `text_fits_and_hash_agrees`.
-/
namespace Argon2Native

namespace Base64

theorem le_textLength (n : Nat) : n ≤ textLength n := by
  unfold textLength
  split <;> omega

theorem textLength_eq_add (n : Nat) : textLength n = n / 3 * 4 + textLength (n % 3) := by
  have hdiv : n % 3 / 3 = 0 := Nat.div_eq_of_lt (Nat.mod_lt n (by decide))
  simp only [textLength, hdiv, Nat.mod_mod, Nat.zero_mul, Nat.zero_add]

/-- What the octets past the last group of three take, in words. -/
theorem rest_eq_ofNat (n : UInt64) :
    (if n % 3 = 0 then 0 else if n % 3 = 1 then 2 else 3) =
      UInt64.ofNat (textLength (n.toNat % 3)) := by
  have hmod (r : UInt64) : n % 3 = r ↔ n.toNat % 3 = r.toNat := by
    rw [← UInt64.toNat_inj, UInt64.toNat_mod]
    rfl
  have hlt : n.toNat % 3 < 3 := Nat.mod_lt _ (by decide)
  simp only [hmod]
  generalize n.toNat % 3 = r at hlt
  have hr : r = 0 ∨ r = 1 ∨ r = 2 := by omega
  rcases hr with rfl | rfl | rfl <;> rfl

/-- In words the length is the same number modulo 2^64. -/
theorem textLengthWord_eq (n : UInt64) : textLengthWord n = UInt64.ofNat (textLength n.toNat) := by
  have hdiv : UInt64.ofNat (n.toNat / 3) = n / 3 := by
    rw [UInt64.ofNat_div n.toNat_lt (by decide), UInt64.ofNat_toNat]
    rfl
  rw [textLengthWord, textLength_eq_add, UInt64.ofNat_add, UInt64.ofNat_mul, hdiv, rest_eq_ofNat]
  rfl

end Base64

namespace EncodedHash

variable {variant : Variant} {timeCost memoryCost parallelism : UInt32}

theorem bufferLengthWord_eq (saltLength outputLength : UInt64) :
    bufferLengthWord variant timeCost memoryCost parallelism saltLength outputLength =
      UInt64.ofNat (bufferLength variant timeCost memoryCost parallelism saltLength.toNat
        outputLength.toNat) := by
  simp only [bufferLengthWord, bufferLength, UInt64.ofNat_add, Base64.textLengthWord_eq]
  rfl

/-- A room that has a 64-bit size is computed in words as it is. -/
theorem toNat_bufferLengthWord {saltLength outputLength : Nat}
    (h : bufferLength variant timeCost memoryCost parallelism saltLength outputLength < 2 ^ 64) :
    (bufferLengthWord variant timeCost memoryCost parallelism saltLength.toUInt64
      outputLength.toUInt64).toNat =
      bufferLength variant timeCost memoryCost parallelism saltLength outputLength := by
  have hlt : saltLength < 2 ^ 64 ∧ outputLength < 2 ^ 64 := by
    have hs := Base64.le_textLength saltLength
    have ho := Base64.le_textLength outputLength
    simp only [bufferLength] at h
    omega
  rw [bufferLengthWord_eq, UInt64.toNat_ofNat_of_lt' hlt.1, UInt64.toNat_ofNat_of_lt' hlt.2,
    UInt64.toNat_ofNat_of_lt' h]

theorem utf8ByteSize_render (e : EncodedHash) : e.render.utf8ByteSize = e.renderChars.length := by
  rw [← length_ofText_render]
  simp [Bytes.ofText]

theorem bufferLength_eq (variant : Variant) (timeCost memoryCost parallelism : UInt32)
    (salt hash : Bytes) :
    bufferLength variant timeCost memoryCost parallelism salt.length hash.length =
      (render ⟨variant, some referenceVersion, memoryCost, timeCost, parallelism, salt,
        hash⟩).utf8ByteSize + 1 := by
  rw [utf8ByteSize_render, length_renderChars_add_one rfl]

theorem le_bufferLength {tag : Variant} (variant : Variant)
    (timeCost memoryCost parallelism : UInt32) (salt hash : Bytes)
    (hn : tag.name.length ≤ variant.name.length) :
    (render ⟨tag, none, memoryCost, timeCost, parallelism, salt, hash⟩).utf8ByteSize + 1 ≤
      bufferLength variant timeCost memoryCost parallelism salt.length hash.length := by
  rw [utf8ByteSize_render]
  exact Nat.le_of_lt (length_renderChars_lt rfl hn)

theorem render_versioned (variant : Variant) (timeCost memoryCost parallelism : UInt32)
    (salt hash : Bytes) :
    render ⟨variant, some referenceVersion, memoryCost, timeCost, parallelism, salt, hash⟩ =
      "$" ++ variant.name ++ "$v=19" ++ ("$m=" ++ toString memoryCost.toNat ++
        ",t=" ++ toString timeCost.toNat ++ ",p=" ++ toString parallelism.toNat ++
        "$" ++ String.ofList (Base64.encode salt) ++ "$" ++ String.ofList (Base64.encode hash)) := by
  have hv : "$v=" ++ toString referenceVersion.toNat = "$v=19" := by decide
  rw [render_eq, Option.elim_some, hv]
  simp only [String.append_assoc]

theorem render_unversioned (variant : Variant) (timeCost memoryCost parallelism : UInt32)
    (salt hash : Bytes) :
    render ⟨variant, none, memoryCost, timeCost, parallelism, salt, hash⟩ =
      "$" ++ variant.name ++ ("$m=" ++ toString memoryCost.toNat ++
        ",t=" ++ toString timeCost.toNat ++ ",p=" ++ toString parallelism.toNat ++
        "$" ++ String.ofList (Base64.encode salt) ++ "$" ++ String.ofList (Base64.encode hash)) := by
  rw [render_eq, Option.elim_none, String.append_empty]
  simp only [String.append_assoc]

end EncodedHash

namespace Native.Build

variable {b : Build}

/-- The call with a text gives the octets of the call without one, or the same failure. -/
theorem Describes.read_eq {entry : EntryPoint} (hb : b.Describes entry) (request : Request) :
    (Call.ofRequest request false).read (entry (.ofRequest request false)) =
      ((Call.ofRequest request true).read (entry (.ofRequest request true))).map
        fun r => { r with encoded := none } := by
  rw [Call.read_of_no_text rfl, Call.read_of_text rfl, ← hb.status_text]
  cases hs : (Status.ofCode (entry (.ofRequest request true)).status).check with
  | error f => rfl
  | ok u =>
    have hraw : rawOf entry request true = rawOf entry request false := hb.hash_text request
    rw [Except.bind, hb.readText (Status.check_ofCode_eq_ok_iff.mp hs)]
    change Except.ok (HashResult.mk (rawOf entry request false) none) =
      .ok ⟨rawOf entry request true, none⟩
    rw [hraw]

end Native.Build

namespace Hasher

open Native (Call Build)

variable {b : Build} {h : Hasher} {password salt : Input} {p : Parameters}

/-- Over a build a text changes nothing else: with one and without one, the same octets come out, or
the same failure. -/
theorem hash_eq_map_hashEncoded (hb : b.Describes h.handle.entry) (password salt : Input)
    (p : Parameters) :
    (h.hash password salt p).result =
      (h.hashEncoded password salt p).result.map fun r => { r with encoded := none } := by
  rw [hash_eq, hashEncoded_eq, result_submit, result_submit]
  cases Request.ofInputs password salt p with
  | error f => rfl
  | ok request =>
    cases p.validate h.limits with
    | error f => rfl
    | ok u => exact hb.read_eq request

theorem hash_ne_encodingFail (hb : h.handle.entry = b.entry) :
    (h.hash password salt p).result ≠ .error (.native .encodingFail) := by
  intro he
  rw [hash_eq, result_submit, hb] at he
  rcases bind_eq_error_iff.mp he with hi | ⟨request, -, he⟩
  · obtain ⟨field, hf⟩ := Request.exists_field_of_ofInputs_error hi
    cases hf
  rcases bind_eq_error_iff.mp he with hv | ⟨u, -, he⟩
  · obtain ⟨field, fault, hf⟩ := Parameters.exists_fault_of_validate_error hv
    cases hf
  rw [Call.read_of_no_text rfl, map_eq_error_iff] at he
  exact Build.ofCode_status_entry_ne_encodingFail (Status.eq_of_check_eq_native he)

/-- The room for a text is exact, its final zero octet included, and more than enough for a text
without a version. So over the in-process functions no text fails to fit, and a hash with a text is
the hash without one: the same octets, or the same failure. -/
theorem text_fits_and_hash_agrees :
    (∀ (variant : Variant) (timeCost memoryCost parallelism : UInt32) (salt hash : Bytes),
      let room := EncodedHash.bufferLength variant timeCost memoryCost parallelism salt.length
        hash.length
      let tail := "$m=" ++ toString memoryCost.toNat ++ ",t=" ++ toString timeCost.toNat ++
        ",p=" ++ toString parallelism.toNat ++ "$" ++ String.ofList (Base64.encode salt) ++
        "$" ++ String.ofList (Base64.encode hash)
      room = ("$" ++ variant.name ++ "$v=19" ++ tail).utf8ByteSize + 1 ∧
      ("$argon2i" ++ tail).utf8ByteSize + 1 ≤ room ∧
      (room < 2 ^ 64 → (EncodedHash.bufferLengthWord variant timeCost memoryCost parallelism
        salt.length.toUInt64 hash.length.toUInt64).toNat = room)) ∧
    (∀ octets : Bytes, (Base64.encode octets).length = Base64.textLength octets.length) ∧
    ∀ h : Hasher, h.handle.entry = Native.unversioned ∨ h.handle.entry = Native.versioned →
      ∀ (password salt : Input) (p : Parameters),
        (h.hashEncoded password salt p).result ≠ .error (.native .encodingFail) ∧
        (h.hash password salt p).result =
          (h.hashEncoded password salt p).result.map fun r => { r with encoded := none } := by
  refine ⟨?_, Base64.length_encode, ?_⟩
  · intro variant timeCost memoryCost parallelism salt hash room tail
    refine ⟨?_, ?_, EncodedHash.toNat_bufferLengthWord⟩
    · rw [← EncodedHash.render_versioned]
      exact EncodedHash.bufferLength_eq variant timeCost memoryCost parallelism salt hash
    · have hr := EncodedHash.render_unversioned .argon2i timeCost memoryCost parallelism salt hash
      rw [show "$argon2i" = "$" ++ Variant.argon2i.name by decide, ← hr]
      exact EncodedHash.le_bufferLength variant timeCost memoryCost parallelism salt hash
        (Build.length_name_argon2i_le variant)
  · intro h hb password salt p
    obtain ⟨b, hb⟩ : ∃ b : Build, h.handle.entry = b.entry :=
      hb.elim (fun hb => ⟨.unversioned, hb⟩) fun hb => ⟨.versioned, hb⟩
    have hd : b.Describes h.handle.entry := hb ▸ b.describes_entry
    have heq := hash_eq_map_hashEncoded hd password salt p
    refine ⟨?_, heq⟩
    intro he
    rw [he] at heq
    exact hash_ne_encodingFail hb heq

theorem text_fits_and_hash_agrees_argon2id :
    let h := (ofHandle (.ofEntry Native.versioned)).withLimits { maxOutputLength := 32 }
    let p : Parameters := { outputLength := 32, variant := .argon2id }
    let password : Input := .text "password"
    let salt : Bytes := List.replicate 8 7
    let room := EncodedHash.bufferLength .argon2id 16 8 1 8 32
    room < 2 ^ 64 ∧ (EncodedHash.bufferLengthWord .argon2id 16 8 1 8 32).toNat = room ∧
      h.handle.entry = Native.versioned ∧
      (h.hash password (.raw salt) p).result =
        (h.hashEncoded password (.raw salt) p).result.map fun r => { r with encoded := none } := by
  intro h p password salt room
  obtain ⟨hroom, -, hagree⟩ := text_fits_and_hash_agrees
  have hlt : room < 2 ^ 64 := by decide
  exact ⟨hlt, (hroom .argon2id 16 8 1 salt (List.replicate 32 0)).2.2 hlt, rfl,
    (hagree h (.inr rfl) password (.raw salt) p).2⟩

end Hasher
end Argon2Native
