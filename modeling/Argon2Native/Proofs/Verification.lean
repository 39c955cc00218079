import Argon2Native.Proofs.EncodedHash
import Argon2Native.Proofs.Hashing
/-!
Verification of a password against an encoded hash, as a relation with one rule for each way in
which it can end. The function and the relation are the same.

Main statement: `verify_spec`; a text that holds a hash of a length out of bounds never verifies.
-/
namespace Argon2Native.Hasher

open Native (Run Call)

def recomputation (e : EncodedHash) (password : Bytes) : Call where
  timeCost := e.timeCost
  memoryCost := e.memoryCost
  parallelism := e.parallelism
  password := password
  salt := e.salt
  hashLength := e.hash.length
  encodedLength? := none
  variantCode := e.variant.code

/-- How a verification ends: each rule needs all that the rules before it found missing, and only
the last two make a call. -/
inductive Verdict (h : Hasher) (text : String) (password : Input) : Run Bool → Prop where
  | unreadable (hp : ∀ e, EncodedHash.parse text ≠ .ok e) :
    Verdict h text password ⟨[], .error (.native .decodingFail)⟩
  | otherVersion {e : EncodedHash} (hp : EncodedHash.parse text = .ok e)
      (hv : e.version ≠ h.encodedVersion) :
    Verdict h text password
      ⟨[], .error (.invalidParameter "version" (.otherVersion e.version h.encodedVersion))⟩
  | misencoded {e : EncodedHash} (hp : EncodedHash.parse text = .ok e)
      (hv : e.version = h.encodedVersion) (hn : ∀ octets, password.normalize "password" ≠ .ok octets) :
    Verdict h text password ⟨[], .error (.invalidEncoding "password" .notUnicode)⟩
  | invalid {e : EncodedHash} {octets : Bytes} {f : Failure}
      (hp : EncodedHash.parse text = .ok e) (hv : e.version = h.encodedVersion)
      (hn : password.normalize "password" = .ok octets)
      (hl : e.parameters.validate h.limits = .error f) :
    Verdict h text password ⟨[], .error f⟩
  | refused {e : EncodedHash} {octets : Bytes} {f : Failure}
      (hp : EncodedHash.parse text = .ok e) (hv : e.version = h.encodedVersion)
      (hn : password.normalize "password" = .ok octets)
      (hl : e.parameters.validate h.limits = .ok ())
      (hs : (h.handle.entry (recomputation e octets)).status ≠ 0)
      (hf : (Status.ofCode (h.handle.entry (recomputation e octets)).status).check = .error f) :
    Verdict h text password ⟨[recomputation e octets], .error f⟩
  | compared {e : EncodedHash} {octets : Bytes} (hp : EncodedHash.parse text = .ok e)
      (hv : e.version = h.encodedVersion) (hn : password.normalize "password" = .ok octets)
      (hl : e.parameters.validate h.limits = .ok ())
      (hs : (h.handle.entry (recomputation e octets)).status = 0) :
    Verdict h text password ⟨[recomputation e octets], .ok (decide
      (Bytes.fill e.hash.length (h.handle.entry (recomputation e octets)).hash = e.hash))⟩

variable {h : Hasher} {text : String} {password : Input} {e : EncodedHash} {octets : Bytes}

theorem ofInputs_salt (hn : password.normalize "password" = .ok octets) :
    Request.ofInputs password (.raw e.salt) e.parameters = .ok ⟨octets, e.salt, e.parameters⟩ :=
  Request.ofInputs_eq_ok_iff.mpr ⟨hn, rfl, rfl⟩

theorem verify_of_misencoded {f : Failure} (hp : EncodedHash.parse text = .ok e)
    (hv : e.version = h.encodedVersion) (hn : password.normalize "password" = .error f) :
    h.verify text password = Run.ofExcept (.error f) := by
  rw [verify_of_readable hp hv, hash_eq,
    submit_of_misencoded (Request.ofInputs_of_password_error hn), Run.bind_ofExcept_error]

theorem verify_of_invalid {f : Failure} (hp : EncodedHash.parse text = .ok e)
    (hv : e.version = h.encodedVersion) (hn : password.normalize "password" = .ok octets)
    (hl : e.parameters.validate h.limits = .error f) :
    h.verify text password = Run.ofExcept (.error f) := by
  rw [verify_of_readable hp hv, hash_eq, submit_of_invalid (ofInputs_salt hn) hl,
    Run.bind_ofExcept_error]

theorem verify_of_valid (hp : EncodedHash.parse text = .ok e)
    (hv : e.version = h.encodedVersion) (hn : password.normalize "password" = .ok octets)
    (hl : e.parameters.validate h.limits = .ok ()) :
    h.verify text password = ⟨[recomputation e octets],
      (Status.ofCode (h.handle.entry (recomputation e octets)).status).check.map fun _ => decide
        (Bytes.fill e.hash.length (h.handle.entry (recomputation e octets)).hash = e.hash)⟩ := by
  rw [verify_of_readable hp hv, hash_eq, submit_of_valid (ofInputs_salt hn) hl, Run.bind_map]
  change Run.mk [recomputation e octets]
    (((recomputation e octets).read (h.handle.entry (recomputation e octets))).map _) = _
  rw [Call.read_of_no_text rfl]
  cases (Status.ofCode (h.handle.entry (recomputation e octets)).status).check <;> rfl

theorem verdict_verify (h : Hasher) (text : String) (password : Input) :
    Verdict h text password (h.verify text password) := by
  cases hp : EncodedHash.parse text with
  | error f =>
    obtain ⟨rfl, -⟩ := EncodedHash.parse_eq_error_iff.mp hp
    rw [verify_of_unreadable hp]
    exact .unreadable (by simp [hp])
  | ok e =>
    by_cases hv : e.version = h.encodedVersion
    · cases hn : password.normalize "password" with
      | error f =>
        obtain rfl := Input.normalize_eq_error hn
        rw [verify_of_misencoded hp hv hn]
        exact .misencoded hp hv (by simp [hn])
      | ok octets =>
        cases hl : e.parameters.validate h.limits with
        | error f =>
          rw [verify_of_invalid hp hv hn hl]
          exact .invalid hp hv hn hl
        | ok u =>
          rw [verify_of_valid hp hv hn hl]
          cases hf : (Status.ofCode (h.handle.entry (recomputation e octets)).status).check with
          | error f =>
            refine .refused hp hv hn hl ?_ hf
            intro hs
            rw [Status.check_ofCode_eq_ok_iff.mpr hs] at hf
            cases hf
          | ok u => exact .compared hp hv hn hl (Status.check_ofCode_eq_ok_iff.mp hf)
    · rw [verify_of_otherVersion hp hv]
      exact .otherVersion hp hv

theorem Verdict.eq_verify {r : Run Bool} (hr : Verdict h text password r) :
    h.verify text password = r := by
  cases hr with
  | unreadable hp =>
    cases hf : EncodedHash.parse text with
    | error f =>
      obtain ⟨rfl, -⟩ := EncodedHash.parse_eq_error_iff.mp hf
      exact verify_of_unreadable hf
    | ok e => exact absurd hf (hp e)
  | otherVersion hp hv => exact verify_of_otherVersion hp hv
  | misencoded hp hv hn =>
    cases hf : password.normalize "password" with
    | error f =>
      obtain rfl := Input.normalize_eq_error hf
      exact verify_of_misencoded hp hv hf
    | ok octets => exact absurd hf (hn octets)
  | invalid hp hv hn hl => exact verify_of_invalid hp hv hn hl
  | refused hp hv hn hl hs hf => rw [verify_of_valid hp hv hn hl, hf]; rfl
  | compared hp hv hn hl hs =>
    rw [verify_of_valid hp hv hn hl, Status.check_ofCode_eq_ok_iff.mpr hs]; rfl

theorem length_bounds_of_verify {b : Bool} (hb : (h.verify text password).result = .ok b) :
    ∃ e, EncodedHash.parse text = .ok e ∧ 4 ≤ e.hash.length ∧
      e.hash.length ≤ h.limits.maxOutputLength := by
  have hr := verdict_verify h text password
  generalize h.verify text password = r at hr hb
  cases hr with
  | unreadable hp => cases hb
  | otherVersion hp hv => cases hb
  | misencoded hp hv hn => cases hb
  | invalid hp hv hn hl => cases hb
  | refused hp hv hn hl hs hf => cases hb
  | compared hp hv hn hl hs =>
    obtain ⟨-, -, -, hleast, hmost⟩ := Parameters.validate_eq_ok_iff.mp hl
    exact ⟨_, hp, hleast, hmost⟩

/-- A verification ends as its rules say and in no other way. A verdict, either one, is given only
on a text whose hash has a length within the bounds. -/
theorem verify_spec (h : Hasher) (text : String) (password : Input) :
    (∀ r, h.verify text password = r ↔ Verdict h text password r) ∧
    ∀ b, (h.verify text password).result = .ok b →
      ∃ e, EncodedHash.parse text = .ok e ∧ 4 ≤ e.hash.length ∧
        e.hash.length ≤ h.limits.maxOutputLength :=
  ⟨fun _ => ⟨fun hr => hr ▸ verdict_verify h text password, Verdict.eq_verify⟩,
    fun _ => length_bounds_of_verify⟩

end Argon2Native.Hasher
