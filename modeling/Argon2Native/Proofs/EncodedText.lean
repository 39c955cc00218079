import Argon2Native.Native.Call
import Argon2Native.Proofs.EncodedHash
/-!
Encoded hashes as octets in a buffer. Their characters are ASCII without the zero character, so a
text has one octet for each character, and the first zero octet after it is the one that ends it.

Main statements: `length_renderChars_add_one`, the room that is asked for is exact for a text with
the reference version, and `readText_fill`, a text that fits into a buffer is read back from it.
-/
namespace Argon2Native

namespace Bytes

theorem ofText_eq_flatMap (s : String) : ofText s = s.toList.flatMap String.utf8EncodeChar := by
  rw [ofText, ← String.utf8Encode_toList, List.utf8Encode]
  simp

theorem flatMap_utf8EncodeChar {cs : List Char} (h : ∀ c ∈ cs, c.toNat < 128) :
    cs.flatMap String.utf8EncodeChar = cs.map fun c => c.toNat.toUInt8 := by
  induction cs with
  | nil => rfl
  | cons c cs ih =>
    have hc : c.utf8Size = 1 := by
      rw [Char.utf8Size_eq_one_iff, UInt32.le_iff_toNat_le]
      exact Nat.le_of_lt_succ (h c (by simp))
    rw [List.flatMap_cons, String.utf8EncodeChar_eq_singleton hc, List.map_cons,
      ih fun d hd => h d (List.mem_cons_of_mem c hd)]
    rfl

theorem ofText_of_ascii {s : String} (h : ∀ c ∈ s.toList, c.toNat < 128) :
    ofText s = s.toList.map fun c => c.toNat.toUInt8 := by
  rw [ofText_eq_flatMap, flatMap_utf8EncodeChar h]

theorem beforeNul?_append {front rest : Bytes} (h : 0 ∉ front) :
    beforeNul? (front ++ 0 :: rest) = some front := by
  have hf : ∀ b ∈ front, decide (b ≠ 0) = true := by
    intro b hb
    exact decide_eq_true fun h0 => h (h0 ▸ hb)
  rw [beforeNul?, if_pos (by simp), List.takeWhile_append_of_pos hf]
  simp

theorem fill_append_zero {front rest : Bytes} {size : Nat} (h : front.length < size) :
    ∃ tail, fill size (front ++ 0 :: rest) = front ++ 0 :: tail := by
  refine ⟨rest.take (size - front.length - 1) ++
    List.replicate (size - (front ++ 0 :: rest).length) 0, ?_⟩
  obtain ⟨k, hk⟩ := Nat.exists_eq_add_of_lt h
  have hs : size - front.length = k + 1 := by omega
  rw [fill, List.take_append, List.take_of_length_le (by omega), hs, List.take_succ_cons]
  simp

end Bytes

namespace Native

/-- The text is found again whatever stands behind its final zero octet. -/
theorem readText_fill {s : String} {size : Nat} {rest : Bytes} (hz : 0 ∉ Bytes.ofText s)
    (hfit : (Bytes.ofText s).length < size) :
    readText (Bytes.fill size (Bytes.ofText s ++ 0 :: rest)) = .ok s := by
  obtain ⟨tail, ht⟩ : ∃ tail, Bytes.fill size (Bytes.ofText s ++ 0 :: rest) =
      Bytes.ofText s ++ 0 :: tail := Bytes.fill_append_zero hfit
  rw [readText, ht, Bytes.beforeNul?_append hz, Option.bind_some, Bytes.text?_ofText]

end Native

namespace EncodedHash

theorem ascii_of_mem_render (e : EncodedHash) :
    ∀ c ∈ e.render.toList, 0 < c.toNat ∧ c.toNat < 128 := by
  rw [render, String.toList_ofList]
  refine forall_mem_intercalate (by decide) fun part hp c hc => ?_
  obtain ⟨h0, h128, -⟩ := e.isPlain_of_mem_segments part hp c hc
  exact ⟨h0, h128⟩

theorem ofText_render (e : EncodedHash) :
    Bytes.ofText e.render = e.renderChars.map fun c => c.toNat.toUInt8 := by
  rw [Bytes.ofText_of_ascii fun c hc => (e.ascii_of_mem_render c hc).2, render,
    String.toList_ofList]

theorem zero_not_mem_ofText_render (e : EncodedHash) : 0 ∉ Bytes.ofText e.render := by
  rw [ofText_render]
  intro h0
  obtain ⟨c, hc, he⟩ := List.mem_map.mp h0
  have hn : c.toNat % 256 = 0 := by simpa using congrArg UInt8.toNat he
  have := e.ascii_of_mem_render c (by rwa [render, String.toList_ofList])
  omega

theorem length_ofText_render (e : EncodedHash) :
    (Bytes.ofText e.render).length = e.renderChars.length := by
  rw [ofText_render, List.length_map]

theorem length_renderChars_add_one {e : EncodedHash} (h : e.version = some referenceVersion) :
    e.renderChars.length + 1 = bufferLength e.variant e.timeCost e.memoryCost e.parallelism
      e.salt.length e.hash.length := by
  simp only [renderChars, segments_of_version_some h, renderCosts, renderField,
    List.intercalate_cons_cons, List.intercalate_singleton, List.length_append, List.length_cons,
    List.length_nil, String.length_toList, versionKey, memoryKey, timeKey, lanesKey,
    Base64.length_encode, bufferLength, Decimal.digitCount]
  omega

/-- A text without a version is shorter, also under a name as long as the one allowed for. -/
theorem length_renderChars_lt {e : EncodedHash} (h : e.version = none) {variant : Variant}
    (hn : e.variant.name.length ≤ variant.name.length) :
    e.renderChars.length + 1 < bufferLength variant e.timeCost e.memoryCost e.parallelism
      e.salt.length e.hash.length := by
  simp only [renderChars, segments_of_version_none h, renderCosts, renderField,
    List.intercalate_cons_cons, List.intercalate_singleton, List.length_append, List.length_cons,
    List.length_nil, String.length_toList, memoryKey, timeKey, lanesKey,
    Base64.length_encode, bufferLength, Decimal.digitCount]
  omega

end EncodedHash
end Argon2Native
