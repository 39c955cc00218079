import Argon2Native.Proofs.Concealment
import Argon2Native.Proofs.Utf8
import Argon2Native.Proofs.Verification
/-!
The forms of an input. Octets that are those of a text may be given raw, as that text or as a string
of the platform, and wherever they are given this makes no difference. Other octets can only be
given raw; as a string of the platform they are refused before any call.

Main statement: `forms_interchangeable`.
-/
namespace Argon2Native

open Native (Call Run)
open Utf8 (WellFormed)

theorem Utf8.isSome_text?_iff {b : Bytes} : (Bytes.text? b).isSome ↔ WellFormed b := by
  rw [wellFormed_iff, Option.isSome_iff_exists]

namespace Input

inductive Gives : Input → Bytes → Prop where
  | raw (b : Bytes) : Gives (.raw b) b
  | text (s : String) : Gives (.text s) (Bytes.ofText s)
  | platform {b : Bytes} (hb : WellFormed b) : Gives (.platform b) b

variable {i j : Input} {b : Bytes} {field : String}

theorem normalize_eq_ok_iff : i.normalize field = .ok b ↔ i.Gives b := by
  constructor
  · intro h
    cases i with
    | text s => cases h; exact .text s
    | raw octets => cases h; exact .raw b
    | platform octets =>
      simp only [normalize] at h
      split at h
      · rename_i htext
        cases h
        exact .platform (Utf8.isSome_text?_iff.mp htext)
      · cases h
  · intro h
    cases h with
    | raw => rfl
    | text s => rfl
    | platform hb => exact if_pos (Utf8.isSome_text?_iff.mpr hb)

theorem normalize_of_not_gives (h : ∀ b, ¬i.Gives b) (field : String) :
    i.normalize field = .error (.invalidEncoding field .notUnicode) := by
  cases hn : i.normalize field with
  | ok b => exact absurd (normalize_eq_ok_iff.mp hn) (h b)
  | error f => rw [normalize_eq_error hn]

theorem not_gives_platform (hb : ¬WellFormed b) (c : Bytes) : ¬(platform b).Gives c := by
  intro h
  cases h with
  | platform hc => exact hb hc

/-- Octets can be given as a text exactly where they can be given as a string of the platform. -/
theorem exists_text_gives_iff : (∃ s, (text s).Gives b) ↔ WellFormed b := by
  constructor
  · rintro ⟨s, h⟩
    cases h with
    | text => exact Utf8.wellFormed_ofText s
  · intro hb
    obtain ⟨s, rfl⟩ := Utf8.exists_text_of_wellFormed hb
    exact ⟨s, .text s⟩

theorem Gives.normalize_eq (hi : i.Gives b) (hj : j.Gives b) (field : String) :
    i.normalize field = j.normalize field := by
  rw [normalize_eq_ok_iff.mpr hi, normalize_eq_ok_iff.mpr hj]

theorem Gives.eq_of_normalize {c : Bytes} (hi : i.Gives b) (hc : i.normalize field = .ok c) :
    c = b := by
  rw [normalize_eq_ok_iff.mpr hi] at hc
  exact (Except.ok.inj hc).symm

end Input

open Input (Gives)

namespace Request

variable {password salt : Input} {p : Parameters} {b : Bytes}

theorem ofInputs_of_salt_error {f : Failure} (hp : password.Gives b)
    (hs : salt.normalize "salt" = .error f) : ofInputs password salt p = .error f := by
  simp [ofInputs, Input.normalize_eq_ok_iff.mpr hp, hs, bind, Except.bind]

end Request

namespace Hasher

inductive Way where
  | hash (p : Parameters)
  | hashRaw (p : Parameters)
  | hashEncoded (p : Parameters)
  | hashDefault

inductive Place where
  | password (way : Way) (salt : Input)
  | salt (way : Way) (password : Input)
  | verified (text : String)

structure Event.Alike (a b : Event) : Prop where
  calls : a.calls = b.calls
  reply : a.reply = b.reply

section steps

variable {h : Hasher} {step : Step}

theorem hasher_perform : (h.perform step).hasher = h := by cases step <;> rfl

theorem step_perform : (h.perform step).step = step := by cases step <;> rfl

end steps

namespace Way

def step (password salt : Input) : Way → Step
  | .hash p => .hash password salt p
  | .hashRaw p => .hashRaw password salt p
  | .hashEncoded p => .hashEncoded password salt p
  | .hashDefault => .hashDefault password salt

def parameters (h : Hasher) : Way → Parameters
  | .hash p | .hashRaw p | .hashEncoded p => p
  | .hashDefault => h.defaults

def wantsText : Way → Bool
  | .hashEncoded _ => true
  | _ => false

def handOut : Way → Except Failure HashResult → Reply
  | .hashRaw _, result => .octets (result.map HashResult.raw)
  | _, result => .hashed result

variable {h : Hasher} {password salt password' salt' : Input} {way : Way} {f : Failure}

theorem demand?_step : h.demand? (way.step password salt) =
    some ⟨password, salt, way.parameters h⟩ := by
  cases way <;> rfl

/-- All ways go through the same submission. -/
theorem perform_step (h : Hasher) (password salt : Input) (way : Way) :
    (h.perform (way.step password salt)).calls =
      (h.submit password salt (way.parameters h) way.wantsText).calls ∧
    (h.perform (way.step password salt)).reply =
      way.handOut (h.submit password salt (way.parameters h) way.wantsText).result := by
  cases way with
  | hash p => exact ⟨rfl, rfl⟩
  | hashEncoded p => exact ⟨rfl, rfl⟩
  | hashDefault => exact ⟨rfl, rfl⟩
  | hashRaw p =>
    simp only [step, perform, Event.ofRun, hashRaw_eq, Run.bind_map]
    exact ⟨rfl, rfl⟩

theorem alike_step
    (hi : ∀ p, Request.ofInputs password salt p = Request.ofInputs password' salt' p) :
    (h.perform (way.step password salt)).Alike (h.perform (way.step password' salt')) := by
  have hs : h.submit password salt (way.parameters h) way.wantsText =
      h.submit password' salt' (way.parameters h) way.wantsText := by
    rw [submit, hi]
    rfl
  obtain ⟨hc, hr⟩ := perform_step h password salt way
  rw [hs] at hc hr
  obtain ⟨hc', hr'⟩ := perform_step h password' salt' way
  exact ⟨hc.trans hc'.symm, hr.trans hr'.symm⟩

theorem perform_of_misencoded
    (hi : Request.ofInputs password salt (way.parameters h) = .error f) :
    (h.perform (way.step password salt)).calls = [] ∧
      (h.perform (way.step password salt)).reply.failure? = some f := by
  obtain ⟨hc, hr⟩ := perform_step h password salt way
  rw [submit_of_misencoded hi] at hc hr
  refine ⟨hc, ?_⟩
  rw [hr]
  cases way <;> rfl

end Way

theorem verify_congr {h : Hasher} {text : String} {i j : Input}
    (hij : ∀ field, i.normalize field = j.normalize field) : h.verify text i = h.verify text j := by
  have hhash (salt : Input) (p : Parameters) : h.hash i salt p = h.hash j salt p := by
    rw [hash, hash, Request.ofInputs, Request.ofInputs, hij]
  simp only [verify, hhash]

theorem perform_verify_of_error {h : Hasher} {text : String} {i : Input} {f : Failure}
    (hv : h.verify text i = Run.ofExcept (.error f)) :
    (h.perform (.verify text i)).calls = [] ∧
      (h.perform (.verify text i)).reply.failure? = some f := by
  simp only [perform, Event.ofRun, hv]
  exact ⟨rfl, rfl⟩

theorem demand?_verify {h : Hasher} {text : String} {i : Input} {d : Demand} :
    h.demand? (.verify text i) = some d ↔ ∃ e, EncodedHash.parse text = .ok e ∧
      e.version = h.encodedVersion ∧ d = ⟨i, .raw e.salt, e.parameters⟩ := by
  simp only [demand?]
  cases EncodedHash.parse text with
  | error f => simp
  | ok e => by_cases hv : e.version = h.encodedVersion <;> simp [hv, eq_comm]

theorem Demand.exists_admits_iff {d : Demand} {limits : Limits} :
    (∃ request, d.Admits limits request) ↔ (∃ b, d.password.Gives b) ∧ (∃ b, d.salt.Gives b) ∧
      d.parameters.validate limits = .ok () := by
  constructor
  · rintro ⟨request, ha⟩
    exact ⟨⟨_, Input.normalize_eq_ok_iff.mp ha.password⟩,
      ⟨_, Input.normalize_eq_ok_iff.mp ha.salt⟩, ha.valid⟩
  · rintro ⟨⟨b, hp⟩, ⟨c, hs⟩, hv⟩
    exact ⟨⟨b, c, d.parameters⟩, Input.normalize_eq_ok_iff.mpr hp,
      Input.normalize_eq_ok_iff.mpr hs, rfl, hv⟩

namespace Place

def step (i : Input) : Place → Step
  | .password way other => way.step i other
  | .salt way other => way.step other i
  | .verified text => .verify text i

def octets (call : Call) : Place → Bytes
  | .password .. | .verified _ => call.password
  | .salt .. => call.salt

/-- Nothing but the input itself can keep the native function from being called. -/
def Open (h : Hasher) : Place → Prop
  | .password way other | .salt way other =>
    (∃ b, other.Gives b) ∧ (way.parameters h).validate h.limits = .ok ()
  | .verified text => ∃ e, EncodedHash.parse text = .ok e ∧ e.version = h.encodedVersion ∧
    e.parameters.validate h.limits = .ok ()

/-- What a place fails with where its input gives no octets: the field of the input, unless what is
looked at before it fails. -/
inductive Refuses (h : Hasher) : Place → Failure → Prop where
  | password {way : Way} {other : Input} :
    Refuses h (.password way other) (.invalidEncoding "password" .notUnicode)
  | salt {way : Way} {other : Input} {b : Bytes} (hp : other.Gives b) :
    Refuses h (.salt way other) (.invalidEncoding "salt" .notUnicode)
  | passwordFirst {way : Way} {other : Input} (hp : ∀ b, ¬other.Gives b) :
    Refuses h (.salt way other) (.invalidEncoding "password" .notUnicode)
  | verified {text : String} {e : EncodedHash} (hp : EncodedHash.parse text = .ok e)
      (hv : e.version = h.encodedVersion) :
    Refuses h (.verified text) (.invalidEncoding "password" .notUnicode)
  | unreadable {text : String} {f : Failure} (hp : EncodedHash.parse text = .error f) :
    Refuses h (.verified text) f
  | otherVersion {text : String} {e : EncodedHash} (hp : EncodedHash.parse text = .ok e)
      (hv : e.version ≠ h.encodedVersion) :
    Refuses h (.verified text)
      (.invalidParameter "version" (.otherVersion e.version h.encodedVersion))

variable {h : Hasher} {place : Place} {i j : Input} {b : Bytes} {f : Failure}

theorem alike_of_gives (hi : i.Gives b) (hj : j.Gives b) :
    (h.perform (place.step i)).Alike (h.perform (place.step j)) := by
  have hij := hi.normalize_eq hj
  cases place with
  | password way other =>
    exact Way.alike_step fun p => by rw [Request.ofInputs, Request.ofInputs, hij]
  | salt way other =>
    exact Way.alike_step fun p => by rw [Request.ofInputs, Request.ofInputs, hij]
  | verified text =>
    simp only [step, perform, verify_congr hij]
    exact ⟨rfl, rfl⟩

theorem octets_of_gives (hi : i.Gives b) :
    ∀ call ∈ (h.perform (place.step i)).calls, place.octets call = b := by
  intro call hmem
  obtain ⟨d, hd, hpermits⟩ := (gated_perform h (place.step i)).permits call hmem
  rw [hasher_perform, step_perform] at hd
  cases place with
  | password way other =>
    rw [step, Way.demand?_step] at hd
    cases hd
    exact hi.eq_of_normalize hpermits.password
  | salt way other =>
    rw [step, Way.demand?_step] at hd
    cases hd
    exact hi.eq_of_normalize hpermits.salt
  | verified text =>
    obtain ⟨e, -, -, rfl⟩ := demand?_verify.mp hd
    exact hi.eq_of_normalize hpermits.password

/-- A place where octets are given is as open as it is without them. -/
theorem calls_ne_nil_iff (hi : i.Gives b) :
    (h.perform (place.step i)).calls ≠ [] ↔ place.Open h := by
  rw [(gated_perform h (place.step i)).calls_ne_nil_iff, hasher_perform, step_perform]
  cases place with
  | password way other =>
    simp only [step, Way.demand?_step, Option.some.injEq, exists_eq_left',
      Demand.exists_admits_iff, Open]
    exact and_iff_right ⟨b, hi⟩
  | salt way other =>
    simp only [step, Way.demand?_step, Option.some.injEq, exists_eq_left',
      Demand.exists_admits_iff, Open]
    exact and_congr_right fun _ => and_iff_right ⟨b, hi⟩
  | verified text =>
    simp only [step, demand?_verify, Demand.exists_admits_iff, Open]
    constructor
    · rintro ⟨-, ⟨e, hp, hv, rfl⟩, -, -, hvalid⟩
      exact ⟨e, hp, hv, hvalid⟩
    · rintro ⟨e, hp, hv, hvalid⟩
      exact ⟨_, ⟨e, hp, hv, rfl⟩, ⟨b, hi⟩, ⟨_, .raw e.salt⟩, hvalid⟩

theorem Refuses.perform (hr : place.Refuses h f) (hi : ∀ b, ¬i.Gives b) :
    (h.perform (place.step i)).calls = [] ∧
      (h.perform (place.step i)).reply.failure? = some f := by
  have hn := Input.normalize_of_not_gives hi
  cases hr with
  | password => exact Way.perform_of_misencoded (Request.ofInputs_of_password_error (hn _))
  | salt hp => exact Way.perform_of_misencoded (Request.ofInputs_of_salt_error hp (hn _))
  | passwordFirst hp =>
    exact Way.perform_of_misencoded
      (Request.ofInputs_of_password_error (Input.normalize_of_not_gives hp _))
  | verified hp hv => exact perform_verify_of_error (verify_of_misencoded hp hv (hn _))
  | unreadable hp => exact perform_verify_of_error (verify_of_unreadable hp)
  | otherVersion hp hv => exact perform_verify_of_error (verify_of_otherVersion hp hv)

theorem exists_refuses (h : Hasher) (place : Place) : ∃ f, place.Refuses h f := by
  cases place with
  | password way other => exact ⟨_, .password⟩
  | salt way other =>
    by_cases hp : ∃ b, other.Gives b
    · obtain ⟨b, hp⟩ := hp
      exact ⟨_, .salt hp⟩
    · exact ⟨_, .passwordFirst (not_exists.mp hp)⟩
  | verified text =>
    cases hp : EncodedHash.parse text with
    | error f => exact ⟨f, .unreadable hp⟩
    | ok e =>
      by_cases hv : e.version = h.encodedVersion
      · exact ⟨_, .verified hp hv⟩
      · exact ⟨_, .otherVersion hp hv⟩

theorem failure?_iff (hi : ∀ b, ¬i.Gives b) :
    (h.perform (place.step i)).reply.failure? = some f ↔ place.Refuses h f := by
  constructor
  · intro hf
    obtain ⟨g, hg⟩ := exists_refuses h place
    have hreply := (hg.perform hi).2
    rw [hf] at hreply
    exact Option.some.inj hreply ▸ hg
  · intro hr
    exact (hr.perform hi).2

end Place

/-- In any place of any entry it makes no difference in which form octets are given: the calls are
the same, and so is the reply. A call has the octets as they were given, and whether one is made
does not depend on them. Octets can always be given raw, and in the other two forms where they are
well-formed. Where they are not, a string of the platform is refused without a call, by the name of
its field or by what was looked at before. -/
theorem forms_interchangeable (h : Hasher) (place : Place) (b : Bytes) :
    (∀ i j : Input, i.Gives b → j.Gives b →
      (h.perform (place.step i)).Alike (h.perform (place.step j))) ∧
    (∀ i : Input, i.Gives b →
      (∀ call ∈ (h.perform (place.step i)).calls, place.octets call = b) ∧
      ((h.perform (place.step i)).calls ≠ [] ↔ place.Open h)) ∧
    ((Input.raw b).Gives b ∧ ((∃ s, (Input.text s).Gives b) ↔ WellFormed b) ∧
      ((Input.platform b).Gives b ↔ WellFormed b)) ∧
    (¬WellFormed b → (h.perform (place.step (.platform b))).calls = [] ∧
      ∀ f, (h.perform (place.step (.platform b))).reply.failure? = some f ↔ place.Refuses h f) := by
  refine ⟨fun i j => Place.alike_of_gives, ?_, ?_, ?_⟩
  · intro i hi
    exact ⟨Place.octets_of_gives hi, Place.calls_ne_nil_iff hi⟩
  · refine ⟨.raw b, Input.exists_text_gives_iff, ?_, .platform⟩
    intro hi
    by_contra hb
    exact Input.not_gives_platform hb b hi
  · intro hb
    have hi := Input.not_gives_platform hb
    obtain ⟨f, hf⟩ := Place.exists_refuses h place
    exact ⟨(hf.perform hi).1, fun f => Place.failure?_iff hi⟩

/-- Octets beyond ASCII as a text and as a string of the platform, and octets that end in the middle
of a character, after a zero. -/
theorem forms_interchangeable_umlaut :
    let h := ofHandle (.ofEntry Native.versioned)
    let place : Place :=
      .password (.hashEncoded { outputLength := 32 }) (.raw (List.replicate 8 7))
    let text := "pässword"
    let b := Bytes.ofText text
    let broken : Bytes := [0x00, 0x70, 0xC3]
    (Input.text text).Gives b ∧ (Input.platform b).Gives b ∧
      (h.perform (place.step (.text text))).Alike (h.perform (place.step (.platform b))) ∧
      (∀ call ∈ (h.perform (place.step (.raw broken))).calls, call.password = broken) ∧
      (h.perform (place.step (.raw broken))).calls.length = 1 ∧
      ¬WellFormed broken ∧ (h.perform (place.step (.platform broken))).calls = [] ∧
      (h.perform (place.step (.platform broken))).reply.failure? =
        some (.invalidEncoding "password" .notUnicode) := by
  intro h place text b broken
  have htext : (Input.text text).Gives b := .text text
  have hplatform : (Input.platform b).Gives b := .platform (Utf8.wellFormed_ofText text)
  have hbroken : ¬WellFormed broken := by
    rw [← Utf8.isSome_text?_iff]
    decide
  obtain ⟨halike, -⟩ := forms_interchangeable h place b
  obtain ⟨-, hoctets, ⟨hraw, -⟩, hrefused⟩ := forms_interchangeable h place broken
  obtain ⟨hcalls, hfailure⟩ := hrefused hbroken
  exact ⟨htext, hplatform, halike _ _ htext hplatform, (hoctets _ hraw).1, rfl, hbroken, hcalls,
    (hfailure _).mpr .password⟩

end Hasher
end Argon2Native
