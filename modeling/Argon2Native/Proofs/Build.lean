import Argon2Native.Native.StandIn
import Argon2Native.Proofs.EncodedText
/-!
The two builds of the native library, told apart by the text they write: a later one shows the
variant and the reference version, an earlier one tags every text argon2i and shows no version.

Main statements: `describes_versioned` and `describes_unversioned`, the in-process functions keep
what is asked of a build.
-/
namespace Argon2Native.Native

inductive Build where
  | versioned
  | unversioned

namespace Build

def tag : Build → Variant → Variant
  | .versioned, variant => variant
  | .unversioned, _ => .argon2i

def version : Build → Option UInt32
  | .versioned => some EncodedHash.referenceVersion
  | .unversioned => none

def shown (b : Build) (request : Request) (hash : Bytes) : EncodedHash where
  variant := b.tag request.parameters.variant
  version := b.version
  memoryCost := request.parameters.memoryCost
  timeCost := request.parameters.timeCost
  parallelism := request.parameters.parallelism
  salt := request.salt
  hash := hash

def tagged (b : Build) (p : Parameters) : Parameters := { p with variant := b.tag p.variant }

theorem tagged_eq {b : Build} {p : Parameters} (h : b = .versioned ∨ p.variant = .argon2i) :
    b.tagged p = p := by
  cases b with
  | versioned => rfl
  | unversioned =>
    have hp : p.variant = .argon2i := by simpa using h
    rw [tagged, tag, ← hp]

theorem parameters_shown (b : Build) {request : Request} {hash : Bytes}
    (hh : hash.length = request.parameters.outputLength) :
    (b.shown request hash).parameters = b.tagged request.parameters := by
  simp only [EncodedHash.parameters, shown, tagged, hh]

def rawOf (entry : EntryPoint) (request : Request) (withEncoded : Bool) : Bytes :=
  Bytes.fill request.parameters.outputLength (entry (.ofRequest request withEncoded)).hash

/-- A function of this build: status and hash come from the arguments alone, whether a text is
asked for or not, the status does not come from the password, and a success writes the text of its
arguments and of its hash, ended by a zero octet. -/
structure Describes (b : Build) (entry : EntryPoint) : Prop where
  status_text (request : Request) :
    (entry (.ofRequest request true)).status = (entry (.ofRequest request false)).status
  hash_text (request : Request) : rawOf entry request true = rawOf entry request false
  status_password (request : Request) (password : Bytes) :
    (entry (.ofRequest { request with password } false)).status =
      (entry (.ofRequest request false)).status
  text (request : Request) : (entry (.ofRequest request true)).status = 0 →
    ∃ rest, (entry (.ofRequest request true)).encoded =
      Bytes.ofText (b.shown request (rawOf entry request true)).render ++ 0 :: rest

theorem length_name_argon2i_le (variant : Variant) :
    Variant.argon2i.name.length ≤ variant.name.length := by
  cases variant <;> decide

/-- The buffer that a request asks for has room for the text and its final zero octet. -/
theorem length_shown_lt (b : Build) {request : Request} {hash : Bytes}
    (hh : hash.length = request.parameters.outputLength) :
    (Bytes.ofText (b.shown request hash).render).length < EncodedHash.bufferLength
      request.parameters.variant request.parameters.timeCost request.parameters.memoryCost
      request.parameters.parallelism request.salt.length request.parameters.outputLength := by
  rw [EncodedHash.length_ofText_render, ← hh]
  cases b with
  | versioned =>
    have hl := EncodedHash.length_renderChars_add_one (e := versioned.shown request hash) rfl
    exact Nat.lt_of_succ_le (Nat.le_of_eq hl)
  | unversioned =>
    have hn := length_name_argon2i_le request.parameters.variant
    have hl := EncodedHash.length_renderChars_lt (e := unversioned.shown request hash) rfl hn
    exact Nat.lt_of_succ_lt hl

/-- After a success the text stands in the buffer that the request asks for. -/
theorem Describes.readText {b : Build} {entry : EntryPoint} (hb : b.Describes entry)
    {request : Request} (hs : (entry (.ofRequest request true)).status = 0) :
    readText (Bytes.fill (EncodedHash.bufferLength request.parameters.variant
        request.parameters.timeCost request.parameters.memoryCost request.parameters.parallelism
        request.salt.length request.parameters.outputLength)
      (entry (.ofRequest request true)).encoded) =
        .ok (b.shown request (rawOf entry request true)).render := by
  obtain ⟨rest, hrest⟩ := hb.text request hs
  rw [hrest]
  exact readText_fill (EncodedHash.zero_not_mem_ofText_render _)
    (b.length_shown_lt (Bytes.length_fill _ _))

end Build

theorem length_flatMap_digest (call : Call) (n : Nat) :
    ((List.range n).flatMap fun i => Sha256.digest (blockMessage call i)).length = 32 * n := by
  induction n with
  | zero => rfl
  | succ n ih => simp [List.range_succ, ih]; omega

@[simp] theorem length_derive (call : Call) : (derive call).length = call.hashLength := by
  rw [derive, List.length_take, length_flatMap_digest]
  omega

def argumentStatuses : List Status :=
  [.ok, .outputTooShort, .saltTooShort, .timeTooSmall, .lanesTooFew, .memoryTooLittle,
    .incorrectType]

theorem argumentStatus_mem (call : Call) : argumentStatus call ∈ argumentStatuses := by
  unfold argumentStatus argumentStatuses
  repeat' split
  all_goals simp

theorem argumentStatus_eq_ok_or (call : Call) :
    argumentStatus call = .ok ∨ (argumentStatus call).code ≠ 0 := by
  have hall : ∀ s ∈ argumentStatuses, s = .ok ∨ s.code ≠ 0 := by decide
  exact hall _ (argumentStatus_mem call)

namespace Build

variable {b : Build} {request : Request}

def entry (b : Build) : EntryPoint := standIn fun variant => (b.tag variant, b.version)

theorem argumentStatus_ofRequest (withEncoded : Bool) :
    argumentStatus (.ofRequest request withEncoded) = argumentStatus (.ofRequest request false) :=
  rfl

theorem entry_of_not_ok (withEncoded : Bool)
    (hs : argumentStatus (.ofRequest request false) ≠ .ok) :
    b.entry (.ofRequest request withEncoded) =
      { status := (argumentStatus (.ofRequest request false)).code } := by
  unfold entry standIn
  rw [argumentStatus_ofRequest]
  split
  · rename_i h _
    exact absurd h hs
  · rfl

theorem entry_of_ok (hs : argumentStatus (.ofRequest request false) = .ok) :
    b.entry (.ofRequest request false) = { status := 0, hash := derive (.ofRequest request false) } := by
  unfold entry standIn
  rw [hs, show Variant.ofCode? (Call.ofRequest request false).variantCode = _ from
    Variant.ofCode?_code request.parameters.variant]
  rfl

theorem entry_text_of_ok (hs : argumentStatus (.ofRequest request false) = .ok) :
    b.entry (.ofRequest request true) =
      { status := 0
        hash := derive (.ofRequest request false)
        encoded := Bytes.ofText (b.shown request (derive (.ofRequest request false))).render ++
          [0] } := by
  have hl := b.length_shown_lt (length_derive (.ofRequest request false))
  have hu (s : String) : s.utf8ByteSize = (Bytes.ofText s).length := by simp [Bytes.ofText]
  unfold entry standIn
  rw [argumentStatus_ofRequest, hs, show Variant.ofCode? (Call.ofRequest request true).variantCode = _
    from Variant.ofCode?_code request.parameters.variant]
  refine if_neg ?_
  rw [hu]
  exact Nat.not_lt.mpr (Nat.succ_le_of_lt hl)

theorem rawOf_entry (withEncoded : Bool) (hs : argumentStatus (.ofRequest request false) = .ok) :
    rawOf b.entry request withEncoded = derive (.ofRequest request false) := by
  have hf : Bytes.fill request.parameters.outputLength (derive (.ofRequest request false)) =
      derive (.ofRequest request false) := by
    have hd : (derive (.ofRequest request false)).length = request.parameters.outputLength :=
      length_derive _
    rw [← hd, Bytes.fill_length]
  unfold rawOf
  cases withEncoded with
  | false => rw [entry_of_ok hs, hf]
  | true => rw [entry_text_of_ok hs, hf]

theorem status_entry : (b.entry (.ofRequest request false)).status =
    (argumentStatus (.ofRequest request false)).code := by
  by_cases hs : argumentStatus (.ofRequest request false) = .ok
  · rw [entry_of_ok hs, hs]
    rfl
  · rw [entry_of_not_ok false hs]

theorem ofCode_status_entry_ne_encodingFail :
    Status.ofCode (b.entry (.ofRequest request false)).status ≠ .encodingFail := by
  have hall : ∀ s ∈ argumentStatuses, Status.ofCode s.code ≠ .encodingFail := by decide
  rw [status_entry]
  exact hall _ (argumentStatus_mem _)

theorem describes_entry (b : Build) : b.Describes b.entry where
  status_text request := by
    by_cases hs : argumentStatus (.ofRequest request false) = .ok
    · rw [entry_of_ok hs, entry_text_of_ok hs]
    · rw [entry_of_not_ok true hs, entry_of_not_ok false hs]
  hash_text request := by
    by_cases hs : argumentStatus (.ofRequest request false) = .ok
    · rw [rawOf_entry true hs, rawOf_entry false hs]
    · rw [rawOf, rawOf, entry_of_not_ok true hs, entry_of_not_ok false hs]
  status_password request password := by
    have hp : argumentStatus (.ofRequest { request with password } false) =
        argumentStatus (.ofRequest request false) := rfl
    by_cases hs : argumentStatus (.ofRequest request false) = .ok
    · rw [entry_of_ok hs, entry_of_ok (hp.trans hs)]
    · rw [entry_of_not_ok false hs, entry_of_not_ok false (hp ▸ hs), hp]
  text request h0 := by
    by_cases hs : argumentStatus (.ofRequest request false) = .ok
    · refine ⟨[], ?_⟩
      rw [rawOf_entry true hs, entry_text_of_ok hs]
    · rw [entry_of_not_ok true hs] at h0
      rcases argumentStatus_eq_ok_or (.ofRequest request false) with h | h
      · exact absurd h hs
      · exact absurd h0 h

theorem describes_versioned : versioned.Describes Native.versioned := describes_entry .versioned

theorem describes_unversioned : unversioned.Describes Native.unversioned :=
  describes_entry .unversioned

end Build
end Argon2Native.Native
