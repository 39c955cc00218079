import Argon2Native.Native.StandIn
import Argon2Native.Proofs.Hashing
import Argon2Native.Proofs.Utf8
/-!
What is read from the two buffers of a native call that succeeds, whatever it left in them. The hash
is taken as it stands. The text is what stands before the first zero octet, and it is refused where
there is no zero octet and where it is no well-formed UTF-8.

Main statement: `hash_reads_buffers`.
-/
namespace Argon2Native

namespace Bytes

def BeforeZero (front b : Bytes) : Prop := 0 ∉ front ∧ ∃ rest, b = front ++ 0 :: rest

theorem beforeNul?_eq_some_iff {b front : Bytes} :
    b.beforeNul? = some front ↔ BeforeZero front b := by
  constructor
  · intro h
    have hzero : 0 ∈ b := by
      by_contra hnot
      rw [beforeNul?, if_neg (by simpa using hnot)] at h
      cases h
    obtain ⟨first, rest, rfl, hfirst⟩ := List.eq_append_cons_of_mem hzero
    rw [beforeNul?_append hfirst] at h
    cases h
    exact ⟨hfirst, rest, rfl⟩
  · rintro ⟨hfront, rest, rfl⟩
    exact beforeNul?_append hfront

end Bytes

namespace Native

open Bytes (BeforeZero)
open Utf8 (WellFormed)

section readText

variable {buffer : Bytes}

theorem readText_eq_ok_iff {s : String} :
    readText buffer = .ok s ↔ BeforeZero (Bytes.ofText s) buffer := by
  rw [← Bytes.beforeNul?_eq_some_iff, readText]
  cases hb : buffer.beforeNul? with
  | none => simp
  | some front =>
    rw [Option.bind_some, Option.some.injEq, ← Bytes.text?_eq_some_iff]
    cases Bytes.text? front <;> simp

theorem readText_of_error {f : Failure} (h : readText buffer = .error f) :
    f = .native .encodingFail := by
  unfold readText at h
  split at h
  · cases h
  · cases h
    rfl

theorem readText_eq_error_iff {f : Failure} : readText buffer = .error f ↔
    f = .native .encodingFail ∧ ∀ front, BeforeZero front buffer → ¬WellFormed front := by
  constructor
  · intro h
    refine ⟨readText_of_error h, fun front hfront hwell => ?_⟩
    obtain ⟨s, rfl⟩ := Utf8.exists_text_of_wellFormed hwell
    rw [readText_eq_ok_iff.mpr hfront] at h
    cases h
  · rintro ⟨rfl, hnone⟩
    cases hr : readText buffer with
    | error f => rw [readText_of_error hr]
    | ok s => exact absurd (Utf8.wellFormed_ofText s) (hnone _ (readText_eq_ok_iff.mp hr))

end readText

structure Call.Leaves (call : Call) (answer : Answer) (hash text : Bytes) : Prop where
  status : answer.status = 0
  hash : Bytes.fill call.hashLength answer.hash = hash
  text : ∀ size, call.encodedLength? = some size → Bytes.fill size answer.encoded = text

namespace Call

variable {call : Call} {answer : Answer} {hash text : Bytes}

/-- There is nothing that a call could not leave. -/
theorem leaves_written (hhash : hash.length = call.hashLength)
    (htext : ∀ size, call.encodedLength? = some size → text.length = size) :
    call.Leaves ⟨0, hash, text⟩ hash text := by
  refine ⟨rfl, ?_, fun size hsize => ?_⟩
  · rw [← hhash, Bytes.fill_length]
  · rw [← htext size hsize, Bytes.fill_length]

theorem Leaves.check (h : call.Leaves answer hash text) :
    (Status.ofCode answer.status).check = .ok () :=
  Status.check_ofCode_eq_ok_iff.mpr h.status

theorem Leaves.read_of_no_text (h : call.Leaves answer hash text)
    (hsize : call.encodedLength? = none) : call.read answer = .ok ⟨hash, none⟩ := by
  rw [Call.read_of_no_text hsize, h.check, h.hash]
  rfl

theorem Leaves.read_of_text {size : Nat} (h : call.Leaves answer hash text)
    (hsize : call.encodedLength? = some size) :
    call.read answer = (readText text).map fun s => ⟨hash, some s⟩ := by
  rw [Call.read_of_text hsize, h.check, h.hash, h.text size hsize]
  rfl

end Call

/-- How the buffers of a call that asks for a text are read, the hash and the text that they hold
being given. -/
structure Reading (hash text : Bytes) (result : Except Failure HashResult) : Prop where
  succeeds_iff : (∃ r, result = .ok r) ↔ ∃ front, BeforeZero front text ∧ WellFormed front
  ok_iff : ∀ r, result = .ok r ↔
    ∃ front, BeforeZero front text ∧ r.raw = hash ∧ r.encoded.map Bytes.ofText = some front
  error_iff : ∀ f, result = .error f ↔
    f = .native .encodingFail ∧ ∀ front, BeforeZero front text → ¬WellFormed front

theorem reading_readText (hash text : Bytes) :
    Reading hash text ((readText text).map fun s => ⟨hash, some s⟩) where
  succeeds_iff := by
    constructor
    · rintro ⟨r, hr⟩
      obtain ⟨s, hs, -⟩ := map_eq_ok_iff.mp hr
      exact ⟨_, readText_eq_ok_iff.mp hs, Utf8.wellFormed_ofText s⟩
    · rintro ⟨front, hfront, hwell⟩
      obtain ⟨s, rfl⟩ := Utf8.exists_text_of_wellFormed hwell
      exact ⟨_, map_eq_ok_iff.mpr ⟨s, readText_eq_ok_iff.mpr hfront, rfl⟩⟩
  ok_iff := by
    intro r
    rw [map_eq_ok_iff]
    constructor
    · rintro ⟨s, hs, rfl⟩
      exact ⟨_, readText_eq_ok_iff.mp hs, rfl, rfl⟩
    · rintro ⟨front, hfront, rfl, hencoded⟩
      obtain ⟨s, hs, rfl⟩ := Option.map_eq_some_iff.mp hencoded
      exact ⟨s, readText_eq_ok_iff.mpr hfront, by rw [← hs]⟩
  error_iff := by
    intro f
    rw [map_eq_error_iff, readText_eq_error_iff]

end Native

namespace Hasher

open Native (Call Run Reading)

variable {h : Hasher} {password salt : Input} {p : Parameters} {request : Request}

/-- Of a call that succeeds, the hash is what it left, and the text of an encoded one is what stands
before the first zero octet of its buffer, if that is well-formed UTF-8; otherwise encoding has
failed. Where no text is asked for nothing can fail. -/
theorem hash_reads_buffers (hi : Request.ofInputs password salt p = .ok request)
    (hv : p.validate h.limits = .ok ()) (hash text : Bytes) :
    let encoding := Call.ofRequest request true
    let plain := Call.ofRequest request false
    (encoding.Leaves (h.handle.entry encoding) hash text →
      hash.length = p.outputLength ∧
      text.length = EncodedHash.bufferLength p.variant p.timeCost p.memoryCost p.parallelism
        request.salt.length p.outputLength ∧
      (h.hashEncoded password salt p).calls = [encoding] ∧
      Reading hash text (h.hashEncoded password salt p).result) ∧
    (plain.Leaves (h.handle.entry plain) hash text →
      h.hash password salt p = ⟨[plain], .ok ⟨hash, none⟩⟩) := by
  intro encoding plain
  obtain ⟨-, -, rfl⟩ := Request.ofInputs_eq_ok_iff.mp hi
  constructor
  · intro hleaves
    have hrun : h.hashEncoded password salt request.parameters =
        ⟨[encoding], (Native.readText text).map fun s => ⟨hash, some s⟩⟩ := by
      rw [hashEncoded_eq, submit_of_valid hi hv, Run.invoke, hleaves.read_of_text rfl]
    rw [hrun]
    refine ⟨?_, ?_, rfl, Native.reading_readText hash text⟩
    · rw [← hleaves.hash, Bytes.length_fill]
      rfl
    · rw [← hleaves.text _ rfl, Bytes.length_fill]
  · intro hleaves
    rw [hash_eq, submit_of_valid hi hv, Run.invoke, hleaves.read_of_no_text rfl]

/-- A text of two octets before a zero octet and more behind it, the same text cut by one, and a
buffer without a zero octet. -/
theorem hash_reads_buffers_cut :
    let p : Parameters := { outputLength := 4 }
    let password : Input := .text "password"
    let salt : Input := .raw (List.replicate 8 7)
    let request : Request := ⟨Bytes.ofText "password", List.replicate 8 7, p⟩
    let hash : Bytes := [1, 2, 3, 4]
    let leaving (text : Bytes) := ofHandle (.ofEntry fun _ => ⟨0, hash, text⟩)
    let whole := Bytes.fill 46 [0xC3, 0xA9, 0, 0x41]
    let cut := Bytes.fill 46 [0xC3, 0, 0xA9]
    let endless := List.replicate 46 0x41
    Request.ofInputs password salt p = .ok request ∧
      p.validate (leaving whole).limits = .ok () ∧
      (∀ text, text.length = 46 → ∀ withEncoded,
        (Call.ofRequest request withEncoded).Leaves ⟨0, hash, text⟩ hash text) ∧
      ((leaving whole).hashEncoded password salt p).result = .ok ⟨hash, some "é"⟩ ∧
      ((leaving cut).hashEncoded password salt p).result = .error (.native .encodingFail) ∧
      ((leaving endless).hashEncoded password salt p).result = .error (.native .encodingFail) ∧
      ((leaving endless).hash password salt p).result = .ok ⟨hash, none⟩ := by
  intro p password salt request hash leaving whole cut endless
  have hi : Request.ofInputs password salt p = .ok request := rfl
  have hv (text : Bytes) : p.validate (leaving text).limits = .ok () := rfl
  have hleaves (text : Bytes) (ht : text.length = 46) (withEncoded : Bool) :
      (Call.ofRequest request withEncoded).Leaves ⟨0, hash, text⟩ hash text := by
    have hsize : (Call.ofRequest request true).encodedLength? = some 46 := by decide +kernel
    refine Call.leaves_written rfl fun size hs => ?_
    cases withEncoded with
    | false => cases hs
    | true => exact ht.trans (Option.some.inj (hsize.symm.trans hs))
  have hreading (text : Bytes) (ht : text.length = 46) :
      Reading hash text ((leaving text).hashEncoded password salt p).result :=
    ((hash_reads_buffers hi (hv text) hash text).1 (hleaves text ht true)).2.2.2
  have hcut : ∀ front, Bytes.BeforeZero front cut → ¬Utf8.WellFormed front := by
    intro front hfront hwell
    obtain ⟨s, hs⟩ := Utf8.wellFormed_iff.mp hwell
    have hnone : cut.beforeNul?.bind Bytes.text? = none := by decide +kernel
    rw [Bytes.beforeNul?_eq_some_iff.mpr hfront, Option.bind_some, hs] at hnone
    cases hnone
  have hendless : ∀ front, Bytes.BeforeZero front endless → ¬Utf8.WellFormed front := by
    rintro front ⟨-, rest, hrest⟩
    have hzero : 0 ∉ endless := by decide
    exact absurd (hrest ▸ List.mem_append_right front List.mem_cons_self) hzero
  refine ⟨hi, hv whole, hleaves, ?_, ?_, ?_, ?_⟩
  · apply ((hreading whole (Bytes.length_fill _ _)).ok_iff _).mpr
    exact ⟨_, Bytes.beforeNul?_eq_some_iff.mp (by decide +kernel), rfl, rfl⟩
  · exact ((hreading cut (Bytes.length_fill _ _)).error_iff _).mpr ⟨rfl, hcut⟩
  · exact ((hreading endless (List.length_replicate ..)).error_iff _).mpr ⟨rfl, hendless⟩
  · rw [(hash_reads_buffers hi (hv endless) hash endless).2
      (hleaves endless (List.length_replicate ..) false)]

end Hasher
end Argon2Native
