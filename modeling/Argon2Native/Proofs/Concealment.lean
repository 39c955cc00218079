import Argon2Native.Native.StandIn
import Argon2Native.Proofs.Session
/-!
What can be learned of a native call that failed. A hasher is run over two native functions that
differ only in what they write; nothing that it hands out tells them apart, because the buffers of a
failed call are not read, and the first failure of those that are read is the only one.

Main statement: `failed_call_conceals`.
-/
namespace Argon2Native

open Native (Call Answer EntryPoint Run)

namespace Native.Call

variable {call : Call} {answer : Answer}

/-- A failed call is read no further than its status. -/
theorem read_of_check_error {f : Failure} (h : (Status.ofCode answer.status).check = .error f) :
    call.read answer = .error f := by
  unfold read
  rw [h]
  rfl

def Garbled (call : Call) (answer : Answer) : Prop :=
  ∃ size, call.encodedLength? = some size ∧
    (Bytes.fill size answer.encoded).beforeNul?.bind Bytes.text? = none

theorem read_of_garbled (hs : answer.status = 0) (h : call.Garbled answer) :
    call.read answer = .error (.native .encodingFail) := by
  obtain ⟨size, hsize, htext⟩ := h
  have hread : readText (Bytes.fill size answer.encoded) = .error (.native .encodingFail) := by
    simp only [readText, htext]
  rw [read_of_text hsize, Status.check_ofCode_eq_ok_iff.mpr hs, hread]
  rfl

end Native.Call

namespace Hasher

def calling (h : Hasher) (entry : EntryPoint) : Hasher :=
  { h with handle := { h.handle with entry } }

def Step.Hashes : Step → Prop
  | .hash .. | .hashDefault .. | .hashRaw .. | .hashEncoded .. | .verify .. => True
  | _ => False

def Reply.failure? : Reply → Option Failure
  | .changed (.error f) | .hashed (.error f) | .octets (.error f) | .verdict (.error f) => some f
  | _ => none

/-- A submission fails whatever the native function is, or it makes a call that is the same for all
of them. -/
theorem submit_calling (h : Hasher) (d : Demand) (wantsText : Bool) :
    (∃ f, ∀ entry, d.submit (h.calling entry) wantsText = Run.ofExcept (.error f)) ∨
      ∃ call, ∀ entry, d.submit (h.calling entry) wantsText = Run.invoke entry call := by
  unfold Demand.submit
  cases hi : Request.ofInputs d.password d.salt d.parameters with
  | error f => exact .inl ⟨f, fun entry => submit_of_misencoded hi wantsText⟩
  | ok request =>
    cases hv : d.parameters.validate h.limits with
    | error f =>
      exact .inl ⟨f, fun entry => submit_of_invalid (h := h.calling entry) hi hv wantsText⟩
    | ok u =>
      exact .inr ⟨_, fun entry => submit_of_valid (h := h.calling entry) hi hv wantsText⟩

structure HandsOut (step : Step) (d : Demand) (h : Hasher)
    (handOut : Except Failure HashResult → Reply) : Prop where
  calls : (h.perform step).calls = (d.submit h step.wantsText).calls
  reply : (h.perform step).reply = handOut (d.submit h step.wantsText).result

/-- A step that hashes hands out some of what it submits comes to. Only a verification may fail
before, and then whatever the native function is. -/
theorem perform_eq_submit (h : Hasher) {step : Step} (hstep : step.Hashes) :
    (∃ reply f, reply.failure? = some f ∧ ∀ entry,
      ((h.calling entry).perform step).calls = [] ∧
        ((h.calling entry).perform step).reply = reply) ∨
    ∃ d handOut, (∀ f, (handOut (.error f)).failure? = some f) ∧
      ∀ entry, HandsOut step d (h.calling entry) handOut := by
  cases step with
  | hash password salt p =>
    exact .inr ⟨⟨password, salt, p⟩, .hashed, fun _ => rfl, fun _ => ⟨rfl, rfl⟩⟩
  | hashDefault password salt =>
    exact .inr ⟨⟨password, salt, h.defaults⟩, .hashed, fun _ => rfl, fun _ => ⟨rfl, rfl⟩⟩
  | hashEncoded password salt p =>
    exact .inr ⟨⟨password, salt, p⟩, .hashed, fun _ => rfl, fun _ => ⟨rfl, rfl⟩⟩
  | hashRaw password salt p =>
    refine .inr ⟨⟨password, salt, p⟩, fun result => .octets (result.map HashResult.raw),
      fun _ => rfl, fun entry => ?_⟩
    constructor <;> simp only [perform, Event.ofRun, hashRaw_eq, Run.bind_map] <;> rfl
  | verify text password =>
    cases hp : EncodedHash.parse text with
    | error f =>
      refine .inl ⟨.verdict (.error f), f, rfl, fun entry => ?_⟩
      simp only [perform, Event.ofRun, verify_of_unreadable hp]
      exact ⟨rfl, rfl⟩
    | ok e =>
      by_cases hv : e.version = h.encodedVersion
      · have hverify (entry : EntryPoint) : (h.calling entry).verify text password = _ :=
          verify_of_readable hp hv
        refine .inr ⟨⟨password, .raw e.salt, e.parameters⟩,
          fun result => .verdict (result.map fun r => decide (r.raw = e.hash)),
          fun _ => rfl, fun entry => ?_⟩
        constructor <;> simp only [perform, Event.ofRun, hverify, Run.bind_map] <;> rfl
      · have hverify (entry : EntryPoint) : (h.calling entry).verify text password = _ :=
          verify_of_otherVersion hp hv
        refine .inl ⟨.verdict (.error (.invalidParameter "version"
          (.otherVersion e.version h.encodedVersion))), _, rfl, fun entry => ?_⟩
        simp only [perform, Event.ofRun, hverify]
        exact ⟨rfl, rfl⟩
  | bind _ | limits _ | defaults _ | version _ | configure _ | drift _ => exact hstep.elim

structure Event.FailAlike (a b : Event) (f : Failure) : Prop where
  calls : a.calls = b.calls
  reply : a.reply = b.reply
  failure : a.reply.failure? = some f

/-- Over two native functions of whose answers the same failure is read, a step that hashes fails
alike, and with that failure if it makes a call. -/
theorem failAlike_of_read (h : Hasher) {e₁ e₂ : EntryPoint} {step : Step} (hstep : step.Hashes)
    (hread : ∀ call ∈ ((h.calling e₁).perform step).calls,
      ∃ f, call.read (e₁ call) = .error f ∧ call.read (e₂ call) = .error f) :
    ∃ f, ((h.calling e₁).perform step).FailAlike ((h.calling e₂).perform step) f ∧
      ∀ call ∈ ((h.calling e₁).perform step).calls, call.read (e₁ call) = .error f := by
  rcases perform_eq_submit h hstep with ⟨reply, f, hf, hfixed⟩ | ⟨d, handOut, hfail, hsubmit⟩
  · obtain ⟨hc₁, hr₁⟩ := hfixed e₁
    obtain ⟨hc₂, hr₂⟩ := hfixed e₂
    exact ⟨f, ⟨hc₁.trans hc₂.symm, hr₁.trans hr₂.symm, hr₁ ▸ hf⟩, by simp [hc₁]⟩
  · obtain ⟨hc₁, hr₁⟩ := hsubmit e₁
    obtain ⟨hc₂, hr₂⟩ := hsubmit e₂
    rcases submit_calling h d step.wantsText with ⟨f, hf⟩ | ⟨call, hcall⟩
    · rw [hf] at hc₁ hr₁ hc₂ hr₂
      exact ⟨f, ⟨hc₁.trans hc₂.symm, hr₁.trans hr₂.symm, hr₁ ▸ hfail f⟩, by simp [hc₁]⟩
    · rw [hcall] at hc₁ hr₁ hc₂ hr₂
      obtain ⟨f, h₁, h₂⟩ := hread call (by simp [hc₁, Run.invoke])
      rw [Run.invoke, h₁] at hc₁ hr₁
      rw [Run.invoke, h₂] at hc₂ hr₂
      exact ⟨f, ⟨hc₁.trans hc₂.symm, hr₁.trans hr₂.symm, hr₁ ▸ hfail f⟩, by simp [hc₁, h₁]⟩

/-- Over two native functions that give the call of a step the same status, other than zero, the
step fails alike, and that status says of what, whatever the two wrote. Where the status is zero but
the buffer for the text holds none, encoded hashing fails alike, whatever stands in the other
buffer. -/
theorem failed_call_conceals (h : Hasher) (e₁ e₂ : EntryPoint) :
    (∀ step : Step, step.Hashes →
      (∀ call ∈ ((h.calling e₁).perform step).calls,
        (e₁ call).status ≠ 0 ∧ (e₂ call).status = (e₁ call).status) →
      ∃ f, ((h.calling e₁).perform step).FailAlike ((h.calling e₂).perform step) f ∧
        ∀ call ∈ ((h.calling e₁).perform step).calls,
          (Status.ofCode (e₁ call).status).check = .error f) ∧
    ∀ password salt p, let step := Step.hashEncoded password salt p
      (∀ call ∈ ((h.calling e₁).perform step).calls,
        ((e₁ call).status = 0 ∧ call.Garbled (e₁ call)) ∧
          (e₂ call).status = 0 ∧ call.Garbled (e₂ call)) →
      ∃ f, ((h.calling e₁).perform step).FailAlike ((h.calling e₂).perform step) f ∧
        (((h.calling e₁).perform step).calls ≠ [] → f = .native .encodingFail) := by
  constructor
  · intro step hstep hs
    have hread : ∀ call ∈ ((h.calling e₁).perform step).calls, ∃ f,
        (Status.ofCode (e₁ call).status).check = .error f ∧
          call.read (e₁ call) = .error f ∧ call.read (e₂ call) = .error f := by
      intro call hmem
      obtain ⟨hne, heq⟩ := hs call hmem
      obtain ⟨f, hf⟩ := Status.exists_check_error hne
      exact ⟨f, hf, Call.read_of_check_error hf, Call.read_of_check_error (heq ▸ hf)⟩
    obtain ⟨f, halike, hfrom⟩ := failAlike_of_read h hstep fun call hmem =>
      (hread call hmem).imp fun _ => And.right
    refine ⟨f, halike, fun call hmem => ?_⟩
    obtain ⟨g, hg, hread₁, -⟩ := hread call hmem
    have hgf : Except.error g = .error f := hread₁.symm.trans (hfrom call hmem)
    exact hg.trans (congrArg _ (Except.error.inj hgf))
  · intro password salt p step hs
    have hread : ∀ call ∈ ((h.calling e₁).perform step).calls,
        call.read (e₁ call) = .error (.native .encodingFail) ∧
          call.read (e₂ call) = .error (.native .encodingFail) := by
      intro call hmem
      obtain ⟨⟨hs₁, hg₁⟩, hs₂, hg₂⟩ := hs call hmem
      exact ⟨Call.read_of_garbled hs₁ hg₁, Call.read_of_garbled hs₂ hg₂⟩
    have hstep : step.Hashes := trivial
    obtain ⟨f, halike, hfrom⟩ := failAlike_of_read h hstep fun call hmem => ⟨_, hread call hmem⟩
    refine ⟨f, halike, fun hne => ?_⟩
    obtain ⟨call, hmem⟩ := List.exists_mem_of_ne_nil _ hne
    exact Except.error.inj ((hfrom call hmem).symm.trans (hread call hmem).1)

/-- Two functions that write different octets and refuse, and two that succeed with different hashes
but write a text that is not UTF-8. -/
theorem failed_call_conceals_scripted :
    let h := ofHandle (.ofEntry Native.versioned)
    let salt : Input := .raw (List.replicate 8 7)
    let step : Step := .hashEncoded (.raw [1, 2, 3]) salt { outputLength := 4 }
    let refusing₁ := Native.scripted { status := 99, fill := [1] }
    let refusing₂ := Native.scripted { status := 99, fill := [2], encoded := some [0x24, 0] }
    let garbling₁ := Native.scripted { fill := [1], encoded := some [0xFF, 0] }
    let garbling₂ := Native.scripted { fill := [2], encoded := some [0xFF, 0] }
    step.Hashes ∧
      (∀ call ∈ ((h.calling refusing₁).perform step).calls,
        (refusing₁ call).status ≠ 0 ∧ (refusing₂ call).status = (refusing₁ call).status) ∧
      ((h.calling refusing₁).perform step).FailAlike ((h.calling refusing₂).perform step)
        (.unknownNative 99) ∧
      (∀ call ∈ ((h.calling garbling₁).perform step).calls,
        ((garbling₁ call).status = 0 ∧ call.Garbled (garbling₁ call)) ∧
          (garbling₂ call).status = 0 ∧ call.Garbled (garbling₂ call)) ∧
      ((h.calling garbling₁).perform step).FailAlike ((h.calling garbling₂).perform step)
        (.native .encodingFail) := by
  intro h salt step refusing₁ refusing₂ garbling₁ garbling₂
  have hrefusing : ∀ call ∈ ((h.calling refusing₁).perform step).calls,
      (refusing₁ call).status ≠ 0 ∧ (refusing₂ call).status = (refusing₁ call).status :=
    fun _ _ => ⟨show (99 : Int32) ≠ 0 by decide, rfl⟩
  have hgarbling : ∀ call ∈ ((h.calling garbling₁).perform step).calls,
      ((garbling₁ call).status = 0 ∧ call.Garbled (garbling₁ call)) ∧
        (garbling₂ call).status = 0 ∧ call.Garbled (garbling₂ call) := by
    intro call hmem
    have hg : (Bytes.fill 46 [0xFF, 0]).beforeNul?.bind Bytes.text? = none := by decide +kernel
    obtain rfl := List.mem_singleton.mp hmem
    exact ⟨⟨rfl, 46, by decide +kernel, hg⟩, rfl, 46, by decide +kernel, hg⟩
  obtain ⟨f, halike, hf⟩ := (failed_call_conceals h refusing₁ refusing₂).1 step trivial hrefusing
  obtain ⟨g, halike', hg⟩ := (failed_call_conceals h garbling₁ garbling₂).2 _ _ _ hgarbling
  have hcall : f = .unknownNative 99 :=
    (Except.error.inj (hf _ List.mem_cons_self)).symm
  have hcall' : g = .native .encodingFail := hg (List.cons_ne_nil _ _)
  exact ⟨trivial, hrefusing, hcall ▸ halike, hgarbling, hcall' ▸ halike'⟩

end Hasher
end Argon2Native
