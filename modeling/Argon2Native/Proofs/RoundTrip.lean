import Argon2Native.Proofs.Build
import Argon2Native.Proofs.Hashing
/-!
Hashing and then verifying. A native function writes the text of its own arguments and hash, so the
text reads back as the request, and a verification repeats the call that made it.

Main statement: `verify_hashEncoded`. Where the text shows another variant than the one asked for,
the verification is that of a hash of the variant shown.
-/
namespace Argon2Native.Hasher

open Native (Run Call Build readText)
open Native.Build (rawOf)

variable {b : Build} {h : Hasher} {password salt : Input} {p : Parameters} {r : HashResult}

/-- A hash with a text comes from one call that succeeded, and its text is that of the build. -/
theorem exists_request_of_hashEncoded (hb : b.Describes h.handle.entry)
    (hr : (h.hashEncoded password salt p).result = .ok r) :
    ∃ request, Request.ofInputs password salt p = .ok request ∧
      p.validate h.limits = .ok () ∧ (h.handle.entry (.ofRequest request true)).status = 0 ∧
      r.raw = rawOf h.handle.entry request true ∧
      r.encoded = some (b.shown request r.raw).render := by
  rw [hashEncoded_eq] at hr
  obtain ⟨request, hi, hv, hread⟩ := result_submit_eq_ok_iff.mp hr
  rw [Call.read_of_text rfl] at hread
  obtain ⟨u, hs, hread⟩ := bind_eq_ok_iff.mp hread
  obtain ⟨text, ht, he⟩ := map_eq_ok_iff.mp hread
  have hs0 := Status.check_ofCode_eq_ok_iff.mp hs
  rw [hb.readText hs0] at ht
  subst he
  refine ⟨request, hi, hv, hs0, rfl, ?_⟩
  rw [← Except.ok.inj ht]
  rfl

/-- Only the octets of a salt count, not the form in which they were given. -/
theorem hash_raw_salt {octets : Bytes} (hs : salt.normalize "salt" = .ok octets) :
    h.hash password (.raw octets) p = h.hash password salt p := by
  rw [hash_eq, hash_eq]
  have hr : (Input.raw octets).normalize "salt" = .ok octets := rfl
  simp only [submit, Request.ofInputs, hs, hr]

theorem hash_of_status {request : Request} (hi : Request.ofInputs password salt p = .ok request)
    (hv : p.validate h.limits = .ok ())
    (hs : (h.handle.entry (.ofRequest request false)).status = 0) :
    (h.hash password salt p).result = .ok ⟨rawOf h.handle.entry request false, none⟩ := by
  rw [hash_eq]
  refine result_submit_eq_ok_iff.mpr ⟨request, hi, hv, ?_⟩
  rw [Call.read_of_no_text rfl, Status.check_ofCode_eq_ok_iff.mpr hs]
  rfl

theorem hashEncoded_of_status (hb : b.Describes h.handle.entry) {request : Request}
    (hi : Request.ofInputs password salt p = .ok request) (hv : p.validate h.limits = .ok ())
    (hs : (h.handle.entry (.ofRequest request false)).status = 0) :
    (h.hashEncoded password salt p).result = .ok ⟨rawOf h.handle.entry request true,
      some (b.shown request (rawOf h.handle.entry request true)).render⟩ := by
  have hs' := (hb.status_text request).trans hs
  rw [hashEncoded_eq]
  refine result_submit_eq_ok_iff.mpr ⟨request, hi, hv, ?_⟩
  rw [Call.read_of_text rfl, Status.check_ofCode_eq_ok_iff.mpr hs', Except.bind, hb.readText hs']
  rfl

/-- A verification of the text of a build is a hash under the parameters shown, compared. -/
theorem verify_shown {request : Request} {raw : Bytes}
    (hlen : raw.length = request.parameters.outputLength) (hv : h.encodedVersion = b.version)
    (hs : salt.normalize "salt" = .ok request.salt) (other : Input) :
    (h.verify (b.shown request raw).render other).result =
      (h.hash other salt (b.tagged request.parameters)).result.map fun s => decide (s.raw = raw) := by
  rw [verify_of_readable (EncodedHash.parse_eq_ok_iff.mpr rfl) hv.symm, Run.bind_map,
    b.parameters_shown hlen, ← hash_raw_salt hs]
  rfl

/-- The text of a hash reads back as its request. A text that shows the variant asked for, as every
text with a version does, verifies on the hasher that made it: the password itself is accepted, and
another one is exactly when it has the same hash. In general a verification is the comparison with
a hash under the variant shown. -/
theorem verify_hashEncoded (hb : b.Describes h.handle.entry) (hv : h.encodedVersion = b.version)
    (hr : (h.hashEncoded password salt p).result = .ok r) :
    ∃ text e, r.encoded = some text ∧ EncodedHash.parse text = .ok e ∧
      (e.variant = b.tag p.variant ∧ e.version = b.version ∧ e.memoryCost = p.memoryCost ∧
        e.timeCost = p.timeCost ∧ e.parallelism = p.parallelism ∧
        salt.normalize "salt" = .ok e.salt ∧ e.hash = r.raw) ∧
      e.parameters = b.tagged p ∧
      (∀ other, (h.verify text other).result =
        (h.hash other salt (b.tagged p)).result.map fun s => decide (s.raw = r.raw)) ∧
      (b = .versioned ∨ p.variant = .argon2i →
        e.parameters = p ∧ (h.verify text password).result = .ok true ∧
        ∀ other octets, other.normalize "password" = .ok octets →
          ∃ s, (h.hash other salt p).result = .ok s ∧
            (h.verify text other).result = .ok (decide (s.raw = r.raw))) := by
  obtain ⟨request, hi, hvalid, hs, hraw, henc⟩ := exists_request_of_hashEncoded hb hr
  obtain ⟨-, hsalt, rfl⟩ := Request.ofInputs_eq_ok_iff.mp hi
  have hlen : r.raw.length = request.parameters.outputLength := hraw ▸ Bytes.length_fill _ _
  have hpar := b.parameters_shown hlen
  have hverify := verify_shown hlen hv hsalt
  refine ⟨_, _, henc, EncodedHash.parse_eq_ok_iff.mpr rfl,
    ⟨rfl, rfl, rfl, rfl, rfl, hsalt, rfl⟩, hpar, hverify, ?_⟩
  intro htag
  rw [Build.tagged_eq htag] at hpar hverify
  have hs0 : (h.handle.entry (.ofRequest request false)).status = 0 := hb.status_text request ▸ hs
  refine ⟨hpar, ?_, ?_⟩
  · rw [hverify, hash_of_status hi hvalid hs0, hraw, hb.hash_text]
    simp [Except.map]
  · intro other octets ho
    have hi' : Request.ofInputs other salt request.parameters =
        .ok { request with password := octets } :=
      Request.ofInputs_eq_ok_iff.mpr ⟨ho, hsalt, rfl⟩
    have hs' : (h.handle.entry (.ofRequest { request with password := octets } false)).status = 0 :=
      (hb.status_password request octets).trans hs0
    have hhash := hash_of_status hi' hvalid hs'
    refine ⟨_, hhash, ?_⟩
    rw [hverify, hhash]
    rfl

theorem verify_hashEncoded_versioned :
    let h := (ofHandle (.ofEntry Native.versioned)).withEncodedVersion (some 19)
    let p : Parameters := { outputLength := 32, variant := .argon2id }
    ∃ r text, (h.hashEncoded (.text "password") (.raw (List.replicate 8 7)) p).result = .ok r ∧
      r.encoded = some text ∧ (h.verify text (.text "password")).result = .ok true := by
  intro h p
  have hi : Request.ofInputs (.text "password") (.raw (List.replicate 8 7)) p =
      .ok ⟨Bytes.ofText "password", List.replicate 8 7, p⟩ := rfl
  have ha : Native.argumentStatus
      (.ofRequest ⟨Bytes.ofText "password", List.replicate 8 7, p⟩ false) = .ok := rfl
  have hs : (Build.versioned.entry
      (.ofRequest ⟨Bytes.ofText "password", List.replicate 8 7, p⟩ false)).status = 0 := by
    rw [Build.entry_of_ok ha]
  have hr : (h.hashEncoded (.text "password") (.raw (List.replicate 8 7)) p).result = .ok _ :=
    hashEncoded_of_status Build.describes_versioned hi (by decide) hs
  obtain ⟨text, e, ht, -, -, -, -, hverify⟩ :=
    verify_hashEncoded Build.describes_versioned rfl hr
  exact ⟨_, text, hr, ht, (hverify (.inl rfl)).2.1⟩

end Argon2Native.Hasher
