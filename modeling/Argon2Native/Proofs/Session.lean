import Argon2Native.Native.StandIn
import Argon2Native.Proofs.Hashing
import Mathlib.Algebra.Group.Nat.Defs
/-!
Whole runs of a hasher: steps that change it, steps that hash, and what each of them asks of the
native function.

Main statement: `trace_gated`. No step reaches the native function but by a call within the bounds
that hold at that moment, and none makes a call that its inputs and parameters do not allow.
-/
namespace Argon2Native

open Native (Run Call)

namespace Hasher

inductive Step where
  | bind (handle : Native.Handle)
  | limits (limits : Limits)
  | defaults (p : Parameters)
  | version (version : Option UInt32)
  | configure (settings : Config.Settings)
  /-- The native function comes to answer otherwise, as one with a state of its own does. -/
  | drift (entry : Native.EntryPoint)
  | hash (password salt : Input) (p : Parameters)
  | hashDefault (password salt : Input)
  | hashRaw (password salt : Input) (p : Parameters)
  | hashEncoded (password salt : Input) (p : Parameters)
  | verify (text : String) (password : Input)

inductive Reply where
  | changed (result : Except Failure Unit)
  | hashed (result : Except Failure HashResult)
  | octets (result : Except Failure Bytes)
  | verdict (result : Except Failure Bool)

def Reply.raw? : Reply → Option Bytes
  | .hashed (.ok r) => some r.raw
  | .octets (.ok raw) => some raw
  | _ => none

structure Event where
  hasher : Hasher
  step : Step
  calls : List Call
  reply : Reply

def Event.ofRun {α : Type} (h : Hasher) (step : Step) (run : Run α)
    (reply : Except Failure α → Reply) : Event :=
  ⟨h, step, run.calls, reply run.result⟩

def after (h : Hasher) : Step → Hasher
  | .bind handle => ofHandle handle
  | .limits limits => h.withLimits limits
  | .defaults p => h.withDefaults p
  | .version version => h.withEncodedVersion version
  | .configure settings => match h.configured settings with
    | .ok configured => configured
    | .error _ => h
  | .drift entry => { h with handle := { h.handle with entry } }
  | _ => h

def perform (h : Hasher) (step : Step) : Event :=
  match step with
  | .configure settings => ⟨h, step, [], .changed ((h.configured settings).map fun _ => ())⟩
  | .hash password salt p => .ofRun h step (h.hash password salt p) .hashed
  | .hashDefault password salt => .ofRun h step (h.hashDefault password salt) .hashed
  | .hashRaw password salt p => .ofRun h step (h.hashRaw password salt p) .octets
  | .hashEncoded password salt p => .ofRun h step (h.hashEncoded password salt p) .hashed
  | .verify text password => .ofRun h step (h.verify text password) .verdict
  | _ => ⟨h, step, [], .changed (.ok ())⟩

def trace (h : Hasher) : List Step → List Event
  | [] => []
  | step :: steps => h.perform step :: (h.after step).trace steps

structure Demand where
  password : Input
  salt : Input
  parameters : Parameters

/-- A verification wants the hash that its text describes, where the text can be read and is of the
version of the hasher. -/
def demand? (h : Hasher) : Step → Option Demand
  | .hash password salt p | .hashRaw password salt p | .hashEncoded password salt p =>
    some ⟨password, salt, p⟩
  | .hashDefault password salt => some ⟨password, salt, h.defaults⟩
  | .verify text password => match EncodedHash.parse text with
    | .ok e => if e.version = h.encodedVersion then some ⟨password, .raw e.salt, e.parameters⟩
      else none
    | .error _ => none
  | _ => none

def Step.wantsText : Step → Bool
  | .hashEncoded .. => true
  | _ => false

structure Demand.Admits (d : Demand) (limits : Limits) (request : Request) : Prop where
  password : d.password.normalize "password" = .ok request.password
  salt : d.salt.normalize "salt" = .ok request.salt
  parameters : request.parameters = d.parameters
  valid : d.parameters.validate limits = .ok ()

structure Demand.Permits (d : Demand) (limits : Limits) (wantsText : Bool) (call : Call) :
    Prop where
  one_le_timeCost : 1 ≤ call.timeCost
  one_le_memoryCost : 1 ≤ call.memoryCost
  one_le_parallelism : 1 ≤ call.parallelism
  four_le_hashLength : 4 ≤ call.hashLength
  hashLength_le : call.hashLength ≤ limits.maxOutputLength
  maxOutputLength_le : limits.maxOutputLength ≤ 2 ^ 32 - 1
  costs : call.timeCost = d.parameters.timeCost ∧ call.memoryCost = d.parameters.memoryCost ∧
    call.parallelism = d.parameters.parallelism
  hashLength : call.hashLength = d.parameters.outputLength
  variantCode : call.variantCode = d.parameters.variant.code
  password : d.password.normalize "password" = .ok call.password
  salt : d.salt.normalize "salt" = .ok call.salt
  encodedLength? : call.encodedLength? = if wantsText then
      some (EncodedHash.bufferLength d.parameters.variant call.timeCost call.memoryCost
        call.parallelism call.salt.length call.hashLength)
    else none

/-- What holds of every step: it makes at most one call, it makes one exactly where its demand
comes to a request, the call is one that may be made, and a hash that it hands out has the length
that was asked for. -/
structure Event.Gated (event : Event) : Prop where
  length_calls_le : event.calls.length ≤ 1
  calls_ne_nil_iff : event.calls ≠ [] ↔
    ∃ d, event.hasher.demand? event.step = some d ∧ ∃ request, d.Admits event.hasher.limits request
  permits : ∀ call ∈ event.calls, ∃ d, event.hasher.demand? event.step = some d ∧
    d.Permits event.hasher.limits event.step.wantsText call
  length_raw : ∀ raw, event.reply.raw? = some raw →
    ∃ d, event.hasher.demand? event.step = some d ∧ raw.length = d.parameters.outputLength

namespace Demand

def submit (d : Demand) (h : Hasher) (wantsText : Bool) : Run HashResult :=
  h.submit d.password d.salt d.parameters wantsText

variable {d : Demand} {h : Hasher} {limits : Limits} {request : Request}

theorem admits_iff : d.Admits limits request ↔
    Request.ofInputs d.password d.salt d.parameters = .ok request ∧
      d.parameters.validate limits = .ok () := by
  rw [Request.ofInputs_eq_ok_iff]
  constructor
  · intro ha
    exact ⟨⟨ha.password, ha.salt, ha.parameters⟩, ha.valid⟩
  · intro ⟨⟨hp, hs, hq⟩, hv⟩
    exact ⟨hp, hs, hq, hv⟩

theorem one_le_of_ne_zero {cost : UInt32} (hc : cost ≠ 0) : 1 ≤ cost :=
  UInt32.not_lt.mp fun hlt => hc (UInt32.lt_one_iff.mp hlt)

/-- The bounds on a call are those that its request was validated against. -/
theorem Admits.permits (ha : d.Admits limits request) (wantsText : Bool) :
    d.Permits limits wantsText (.ofRequest request wantsText) := by
  obtain ⟨octets, saltOctets, p⟩ := request
  obtain ⟨hp, hs, rfl, hv⟩ := ha
  obtain ⟨ht, hm, hl, hleast, hmost⟩ := Parameters.validate_eq_ok_iff.mp hv
  exact {
    one_le_timeCost := one_le_of_ne_zero ht
    one_le_memoryCost := one_le_of_ne_zero hm
    one_le_parallelism := one_le_of_ne_zero hl
    four_le_hashLength := hleast
    hashLength_le := hmost
    maxOutputLength_le := limits.le_most
    costs := ⟨rfl, rfl, rfl⟩
    hashLength := rfl
    variantCode := rfl
    password := hp
    salt := hs
    encodedLength? := rfl }

theorem Admits.submit_eq (ha : d.Admits h.limits request) (wantsText : Bool) :
    d.submit h wantsText = Run.invoke h.handle.entry (.ofRequest request wantsText) := by
  obtain ⟨hi, hv⟩ := admits_iff.mp ha
  exact submit_of_valid hi hv wantsText

/-- A demand that comes to no request fails before any call. -/
theorem submit_of_not_admits (hn : ¬ ∃ request, d.Admits h.limits request) (wantsText : Bool) :
    ∃ f, d.submit h wantsText = Run.ofExcept (.error f) := by
  cases hi : Request.ofInputs d.password d.salt d.parameters with
  | error f => exact ⟨f, submit_of_misencoded hi wantsText⟩
  | ok request =>
    cases hv : d.parameters.validate h.limits with
    | error f => exact ⟨f, submit_of_invalid hi hv wantsText⟩
    | ok u => exact absurd ⟨request, admits_iff.mpr ⟨hi, hv⟩⟩ hn

end Demand

namespace Event

variable {event : Event} {d : Demand}

/-- A step without a demand makes no call and hands out nothing. -/
theorem gated_of_idle (hd : event.hasher.demand? event.step = none) (hc : event.calls = [])
    (hr : event.reply.raw? = none) : event.Gated where
  length_calls_le := by simp [hc]
  calls_ne_nil_iff := by simp [hc, hd]
  permits := by simp [hc]
  length_raw := by simp [hr]

/-- A step that does no more than submit its demand and hand out some of the result. -/
theorem gated_of_submit (hd : event.hasher.demand? event.step = some d)
    (hc : event.calls = (d.submit event.hasher event.step.wantsText).calls)
    (hr : ∀ raw, event.reply.raw? = some raw →
      ∃ r, (d.submit event.hasher event.step.wantsText).result = .ok r ∧ r.raw = raw) :
    event.Gated := by
  by_cases ha : ∃ request, d.Admits event.hasher.limits request
  · obtain ⟨request, ha⟩ := ha
    rw [ha.submit_eq] at hc hr
    have hcalls : event.calls = [.ofRequest request event.step.wantsText] := hc
    refine ⟨by simp [hcalls], ?_, ?_, ?_⟩
    · exact iff_of_true (by simp [hcalls]) ⟨d, hd, request, ha⟩
    · intro call hmem
      rw [hcalls, List.mem_singleton] at hmem
      exact ⟨d, hd, hmem ▸ ha.permits event.step.wantsText⟩
    · intro raw hraw
      obtain ⟨r, hread, hrr⟩ := hr raw hraw
      refine ⟨d, hd, ?_⟩
      rw [← hrr, Call.length_raw_of_read hread]
      exact congrArg Parameters.outputLength ha.parameters
  · obtain ⟨f, hf⟩ := Demand.submit_of_not_admits ha event.step.wantsText
    rw [hf] at hc hr
    have hcalls : event.calls = [] := hc
    refine ⟨by simp [hcalls], ?_, by simp [hcalls], ?_⟩
    · refine iff_of_false (by simp [hcalls]) ?_
      intro ⟨d', hd', hadm⟩
      rw [hd] at hd'
      cases hd'
      exact ha hadm
    · intro raw hraw
      obtain ⟨r, he, -⟩ := hr raw hraw
      cases he

end Event

variable {h : Hasher} {password salt : Input} {p : Parameters} {text : String}

theorem gated_verify : (h.perform (.verify text password)).Gated := by
  cases hp : EncodedHash.parse text with
  | error f =>
    refine Event.gated_of_idle ?_ ?_ rfl
    · simp only [perform, Event.ofRun, demand?, hp]
    · simp only [perform, Event.ofRun, verify_of_unreadable hp, Run.calls_ofExcept]
  | ok e =>
    by_cases hv : e.version = h.encodedVersion
    · have hd : h.demand? (.verify text password) =
          some ⟨password, .raw e.salt, e.parameters⟩ := by
        simp only [demand?, hp, if_pos hv]
      refine Event.gated_of_submit hd ?_ ?_
      · simp only [perform, Event.ofRun, verify_of_readable hp hv, Run.bind_map]
        rfl
      · intro raw hraw
        cases hraw
    · refine Event.gated_of_idle ?_ ?_ rfl
      · simp only [perform, Event.ofRun, demand?, hp]
        exact if_neg hv
      · simp only [perform, Event.ofRun, verify_of_otherVersion hp hv, Run.calls_ofExcept]

theorem exists_of_raw?_hashed {result : Except Failure HashResult} {raw : Bytes}
    (hr : (Reply.hashed result).raw? = some raw) : ∃ r, result = .ok r ∧ r.raw = raw := by
  cases result with
  | error f => cases hr
  | ok r => exact ⟨r, rfl, Option.some.inj hr⟩

theorem exists_of_raw?_octets {result : Except Failure HashResult} {raw : Bytes}
    (hr : (Reply.octets (result.map HashResult.raw)).raw? = some raw) :
    ∃ r, result = .ok r ∧ r.raw = raw := by
  cases result with
  | error f => cases hr
  | ok r => exact ⟨r, rfl, Option.some.inj hr⟩

theorem gated_hashRaw : (h.perform (.hashRaw password salt p)).Gated := by
  have hd : h.demand? (.hashRaw password salt p) = some ⟨password, salt, p⟩ := rfl
  have hrun : h.perform (.hashRaw password salt p) =
      ⟨h, .hashRaw password salt p, (h.submit password salt p false).calls,
        .octets ((h.submit password salt p false).result.map HashResult.raw)⟩ := by
    simp only [perform, Event.ofRun, hashRaw_eq, Run.bind_map]
  rw [hrun]
  exact Event.gated_of_submit hd rfl fun _ => exists_of_raw?_octets

/-- Every step keeps the gate, whatever hasher it is made on. -/
theorem gated_perform (h : Hasher) (step : Step) : (h.perform step).Gated := by
  cases step with
  | bind handle => exact Event.gated_of_idle rfl rfl rfl
  | limits limits => exact Event.gated_of_idle rfl rfl rfl
  | defaults p => exact Event.gated_of_idle rfl rfl rfl
  | version version => exact Event.gated_of_idle rfl rfl rfl
  | configure settings => exact Event.gated_of_idle rfl rfl rfl
  | drift entry => exact Event.gated_of_idle rfl rfl rfl
  | hash password salt p =>
    exact Event.gated_of_submit (d := ⟨password, salt, p⟩) rfl rfl
      fun _ => exists_of_raw?_hashed
  | hashDefault password salt =>
    exact Event.gated_of_submit (d := ⟨password, salt, h.defaults⟩) rfl rfl
      fun _ => exists_of_raw?_hashed
  | hashRaw password salt p => exact gated_hashRaw
  | hashEncoded password salt p =>
    exact Event.gated_of_submit (d := ⟨password, salt, p⟩) rfl rfl
      fun _ => exists_of_raw?_hashed
  | verify text password => exact gated_verify

/-- Every event of a run is gated by the limits that hold when its step is made. -/
theorem trace_gated (h : Hasher) (steps : List Step) : ∀ event ∈ h.trace steps, event.Gated := by
  induction steps generalizing h with
  | nil => simp [trace]
  | cons step steps ih =>
    intro event hmem
    rw [trace, List.mem_cons] at hmem
    cases hmem with
    | inl heq => exact heq ▸ gated_perform h step
    | inr hmem => exact ih (h.after step) event hmem

theorem trace_gated_encoded :
    let h := ofHandle (.ofEntry Native.versioned)
    let p : Parameters := { outputLength := 32, variant := .argon2id }
    let step : Step := .hashEncoded (.text "password") (.raw (List.replicate 8 7)) p
    let event := (h.withLimits { maxOutputLength := 32 }).perform step
    event ∈ h.trace [.limits { maxOutputLength := 32 }, step] ∧ event.Gated ∧
      event.calls.length = 1 := by
  intro h p step event
  have hmem : event ∈ h.trace [.limits { maxOutputLength := 32 }, step] :=
    List.mem_cons_of_mem _ List.mem_cons_self
  exact ⟨hmem, trace_gated h _ event hmem, rfl⟩

end Hasher
end Argon2Native
