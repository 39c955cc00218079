import Argon2Native.Hasher
import Mathlib.Data.List.Basic
/-!
What each entry of a hasher comes to: a request that is refused before any call, or one call whose
answer is read.

Main statements: `submit_of_valid` and `submit_of_invalid` for the common way of all entries, and
`verify_of_readable`, which reduces a verification to a hash and a comparison.
-/
namespace Argon2Native

theorem bind_eq_ok_iff {ε α β : Type} {x : Except ε α} {f : α → Except ε β} {b : β} :
    x.bind f = .ok b ↔ ∃ a, x = .ok a ∧ f a = .ok b := by
  cases x <;> simp [Except.bind]

theorem map_eq_ok_iff {ε α β : Type} {x : Except ε α} {f : α → β} {b : β} :
    x.map f = .ok b ↔ ∃ a, x = .ok a ∧ f a = b := by
  cases x <;> simp [Except.map]

theorem bind_eq_error_iff {ε α β : Type} {x : Except ε α} {f : α → Except ε β} {e : ε} :
    x.bind f = .error e ↔ x = .error e ∨ ∃ a, x = .ok a ∧ f a = .error e := by
  cases x <;> simp [Except.bind]

theorem map_eq_error_iff {ε α β : Type} {x : Except ε α} {f : α → β} {e : ε} :
    x.map f = .error e ↔ x = .error e := by
  cases x <;> simp [Except.map]

namespace Status

theorem check_eq_ok_iff {s : Status} : s.check = .ok () ↔ s = .ok := by
  cases s <;> simp [check]

theorem check_ofCode_eq_ok_iff {n : Int32} : (ofCode n).check = .ok () ↔ n = 0 := by
  rw [check_eq_ok_iff, ofCode_eq_ok_iff]

theorem exists_check_error {n : Int32} (hn : n ≠ 0) : ∃ f, (ofCode n).check = .error f := by
  cases hc : (ofCode n).check with
  | error f => exact ⟨f, rfl⟩
  | ok u => exact absurd (check_ofCode_eq_ok_iff.mp hc) hn

theorem eq_of_check_eq_native {s t : Status} (h : s.check = .error (.native t)) : s = t := by
  cases s <;> simp_all [check]

theorem kind_of_check_error {s : Status} {f : Failure} (h : s.check = .error f) :
    f.kind = .native ∨ f.kind = .unknown := by
  unfold check at h
  split at h
  · cases h
  · cases h
    exact .inr rfl
  · cases h
    exact .inl rfl

end Status

namespace Input

theorem normalize_eq_error {field : String} {input : Input} {f : Failure}
    (h : input.normalize field = .error f) : f = .invalidEncoding field .notUnicode := by
  cases input with
  | text s => cases h
  | raw octets => cases h
  | platform octets =>
    simp only [normalize] at h
    split at h
    · cases h
    · cases h; rfl

end Input

namespace Request

variable {password salt : Input} {p : Parameters}

theorem ofInputs_eq_ok_iff {request : Request} :
    ofInputs password salt p = .ok request ↔ password.normalize "password" = .ok request.password ∧
      salt.normalize "salt" = .ok request.salt ∧ request.parameters = p := by
  obtain ⟨octets, saltOctets, q⟩ := request
  unfold ofInputs
  cases password.normalize "password" with
  | error f => simp [bind, Except.bind]
  | ok a =>
    cases salt.normalize "salt" with
    | error f => simp [bind, Except.bind]
    | ok b => simp [bind, Except.bind, pure, Except.pure, eq_comm]

/-- The failure of the password hides that of the salt. -/
theorem ofInputs_of_password_error {f : Failure} (h : password.normalize "password" = .error f) :
    ofInputs password salt p = .error f := by
  simp [ofInputs, h, bind, Except.bind]

theorem exists_field_of_ofInputs_error {f : Failure} (h : ofInputs password salt p = .error f) :
    ∃ field, f = .invalidEncoding field .notUnicode := by
  cases hp : password.normalize "password" with
  | error g =>
    rw [ofInputs_of_password_error hp] at h
    cases h
    exact ⟨_, Input.normalize_eq_error hp⟩
  | ok octets =>
    cases hs : salt.normalize "salt" with
    | error g =>
      simp only [ofInputs, hp, hs] at h
      cases h
      exact ⟨_, Input.normalize_eq_error hs⟩
    | ok saltOctets =>
      simp only [ofInputs, hp, hs] at h
      cases h

end Request

namespace Parameters

theorem checkCost_bind_eq_error {field : String} {cost : UInt32} {next : Except Failure Unit}
    {f : Failure} (h : (checkCost field cost >>= fun _ => next) = .error f) :
    f = .invalidParameter field .belowOne ∨ next = .error f := by
  unfold checkCost at h
  split at h
  · cases h
    exact .inl rfl
  · exact .inr h

/-- Parameters are refused by naming one of them. -/
theorem exists_fault_of_validate_error {p : Parameters} {limits : Limits} {f : Failure}
    (h : p.validate limits = .error f) : ∃ field fault, f = .invalidParameter field fault := by
  rcases checkCost_bind_eq_error h with rfl | h
  · exact ⟨_, _, rfl⟩
  rcases checkCost_bind_eq_error h with rfl | h
  · exact ⟨_, _, rfl⟩
  rcases checkCost_bind_eq_error h with rfl | h
  · exact ⟨_, _, rfl⟩
  unfold Limits.checkLength at h
  split at h
  · cases h
    exact ⟨_, _, rfl⟩
  · split at h
    · cases h
      exact ⟨_, _, rfl⟩
    · cases h

end Parameters

namespace Native

variable {call : Call} {answer : Answer}

/-- Without a buffer for the text, a call gives what stands in the other one. -/
theorem Call.read_of_no_text (h : call.encodedLength? = none) :
    call.read answer = (Status.ofCode answer.status).check.map fun _ =>
      ⟨Bytes.fill call.hashLength answer.hash, none⟩ := by
  unfold read
  cases (Status.ofCode answer.status).check with
  | error f => rfl
  | ok u => rw [h]; rfl

theorem Call.read_of_text {size : Nat} (h : call.encodedLength? = some size) :
    call.read answer = (Status.ofCode answer.status).check.bind fun _ =>
      (readText (Bytes.fill size answer.encoded)).map fun s =>
        ⟨Bytes.fill call.hashLength answer.hash, some s⟩ := by
  unfold read
  cases (Status.ofCode answer.status).check with
  | error f => rfl
  | ok u =>
    simp only [h]
    cases readText (Bytes.fill size answer.encoded) <;> rfl

/-- What comes back from a call fails for no input. -/
theorem Call.kind_of_read_error {f : Failure} (h : call.read answer = .error f) :
    f.kind = .native ∨ f.kind = .unknown := by
  cases he : call.encodedLength? with
  | none =>
    rw [read_of_no_text he, map_eq_error_iff] at h
    exact Status.kind_of_check_error h
  | some size =>
    rw [read_of_text he] at h
    rcases bind_eq_error_iff.mp h with h | ⟨-, -, h⟩
    · exact Status.kind_of_check_error h
    · rw [map_eq_error_iff, readText] at h
      split at h
      · cases h
      · cases h
        exact .inl rfl

theorem Call.length_raw_of_read {r : HashResult} (h : call.read answer = .ok r) :
    r.raw.length = call.hashLength := by
  cases he : call.encodedLength? with
  | none =>
    rw [read_of_no_text he] at h
    obtain ⟨-, -, rfl⟩ := map_eq_ok_iff.mp h
    exact Bytes.length_fill _ _
  | some size =>
    rw [read_of_text he] at h
    obtain ⟨-, -, h⟩ := bind_eq_ok_iff.mp h
    obtain ⟨s, -, rfl⟩ := map_eq_ok_iff.mp h
    exact Bytes.length_fill _ _

end Native

namespace Hasher

open Native (Run Call)

variable {h : Hasher} {password salt : Input} {p : Parameters}

def submit (h : Hasher) (password salt : Input) (p : Parameters) (withEncoded : Bool) :
    Run HashResult :=
  (Run.ofExcept (Request.ofInputs password salt p)).bind (h.run · withEncoded)

theorem hash_eq : h.hash password salt p = h.submit password salt p false := rfl

theorem hashEncoded_eq : h.hashEncoded password salt p = h.submit password salt p true := rfl

theorem hashRaw_eq : h.hashRaw password salt p =
    (h.submit password salt p false).bind fun r => Run.ofExcept (.ok r.raw) := rfl

variable {request : Request} {f : Failure}

theorem submit_of_misencoded (hi : Request.ofInputs password salt p = .error f)
    (withEncoded : Bool) :
    h.submit password salt p withEncoded = Run.ofExcept (.error f) := by
  rw [submit, hi, Run.bind_ofExcept_error]

theorem submit_of_invalid (hi : Request.ofInputs password salt p = .ok request)
    (hv : p.validate h.limits = .error f) (withEncoded : Bool) :
    h.submit password salt p withEncoded = Run.ofExcept (.error f) := by
  obtain ⟨-, -, rfl⟩ := Request.ofInputs_eq_ok_iff.mp hi
  rw [submit, hi, Run.bind_ofExcept_ok]
  simp [run, Request.validate, hv]

theorem submit_of_valid (hi : Request.ofInputs password salt p = .ok request)
    (hv : p.validate h.limits = .ok ()) (withEncoded : Bool) :
    h.submit password salt p withEncoded =
      Run.invoke h.handle.entry (.ofRequest request withEncoded) := by
  obtain ⟨-, -, rfl⟩ := Request.ofInputs_eq_ok_iff.mp hi
  rw [submit, hi, Run.bind_ofExcept_ok]
  simp [run, Request.validate, hv]

/-- The result goes through the stages one after the other. -/
theorem result_submit (withEncoded : Bool) : (h.submit password salt p withEncoded).result =
    (Request.ofInputs password salt p).bind fun request => (p.validate h.limits).bind fun _ =>
      (Call.ofRequest request withEncoded).read
        (h.handle.entry (.ofRequest request withEncoded)) := by
  cases hi : Request.ofInputs password salt p with
  | error f => rw [submit_of_misencoded hi]; rfl
  | ok request =>
    cases hv : p.validate h.limits with
    | error f => rw [submit_of_invalid hi hv]; rfl
    | ok u => rw [submit_of_valid hi hv]; rfl

theorem result_submit_eq_ok_iff {withEncoded : Bool} {r : HashResult} :
    (h.submit password salt p withEncoded).result = .ok r ↔
      ∃ request, Request.ofInputs password salt p = .ok request ∧ p.validate h.limits = .ok () ∧
        (Call.ofRequest request withEncoded).read
          (h.handle.entry (.ofRequest request withEncoded)) = .ok r := by
  cases hi : Request.ofInputs password salt p with
  | error f => simp [submit_of_misencoded hi]
  | ok request =>
    cases hv : p.validate h.limits with
    | error f => simp [submit_of_invalid hi hv]
    | ok u => simp [submit_of_valid hi hv, Run.invoke]

/-- The comparison gathers every differing bit, so it ends in zero only for equal octets. -/
theorem foldl_differences_eq_zero_iff (l : List (UInt8 × UInt8)) (diff : UInt8) :
    l.foldl (fun diff (x, y) => diff ||| (x ^^^ y)) diff = 0 ↔
      diff = 0 ∧ ∀ pair ∈ l, pair.1 = pair.2 := by
  induction l generalizing diff with
  | nil => simp
  | cons pair l ih =>
    rw [List.foldl_cons, ih]
    simp [and_assoc]

theorem sameOctets_eq_decide (a b : Bytes) : sameOctets a b = decide (a = b) := by
  rw [Bool.eq_iff_iff, decide_eq_true_iff, sameOctets, Bool.and_eq_true, beq_iff_eq, beq_iff_eq,
    foldl_differences_eq_zero_iff]
  constructor
  · intro h
    obtain ⟨hlen, -, hpairs⟩ := h
    refine List.ext_getElem hlen fun i hi hj => ?_
    have hz : i < (a.zip b).length := by rw [List.length_zip]; exact Nat.lt_min.mpr ⟨hi, hj⟩
    have hmem : (a[i], b[i]) ∈ a.zip b := by
      rw [← List.getElem_zip (h := hz)]
      exact List.getElem_mem hz
    exact hpairs _ hmem
  · intro h
    subst h
    refine ⟨rfl, rfl, fun pair hp => ?_⟩
    obtain ⟨i, hi, rfl⟩ := List.mem_iff_getElem.mp hp
    simp

variable {text : String}

theorem verify_of_unreadable (hp : EncodedHash.parse text = .error f) :
    h.verify text password = Run.ofExcept (.error f) := by
  simp [verify, hp]

theorem verify_of_otherVersion {e : EncodedHash} (hp : EncodedHash.parse text = .ok e)
    (hv : e.version ≠ h.encodedVersion) :
    h.verify text password = Run.ofExcept
      (.error (.invalidParameter "version" (.otherVersion e.version h.encodedVersion))) := by
  simp [verify, hp, checkVersion, hv]

theorem verify_of_readable {e : EncodedHash} (hp : EncodedHash.parse text = .ok e)
    (hv : e.version = h.encodedVersion) :
    h.verify text password = (h.hash password (.raw e.salt) e.parameters).bind fun r =>
      Run.ofExcept (.ok (decide (r.raw = e.hash))) := by
  simp [verify, hp, checkVersion, hv, sameOctets_eq_decide]

end Hasher
end Argon2Native
