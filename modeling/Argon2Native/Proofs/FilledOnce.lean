import Argon2Native.WriteOnce
/-!
Whole runs of a write-once cell: uses of any kind one after the other, with initializers that give
a value, fail, or are interrupted under the lock.

Main statement: `trace_fills_once`. A run is of uses in vain, then of one use at most that fills the
cell, then of uses that find its value.
-/
namespace Argon2Native.WriteOnce

variable {ε α : Type}

inductive Use (ε α : Type) where
  | get
  | set (offered : α)
  | init (initializer : Unit → Except ε α)

inductive Answer (ε α : Type) where
  | found (value? : Option α)
  | placement (placement : Placement α)
  | reply (reply : Reply ε α)

structure Event (ε α : Type) where
  before : WriteOnce α
  use : Use ε α
  answer : Answer ε α
  after : WriteOnce α

inductive Vain : Use ε α → Answer ε α → Prop where
  | get : Vain .get (.found none)
  | init {initializer : Unit → Except ε α} {e : ε} (h : initializer () = .error e) :
    Vain (.init initializer) (.reply ⟨.error e, true⟩)

inductive Filling (value : α) : Use ε α → Answer ε α → Prop where
  | set : Filling value (.set value) (.placement .placed)
  | init {initializer : Unit → Except ε α} (h : initializer () = .ok value) :
    Filling value (.init initializer) (.reply ⟨.ok value, true⟩)

inductive Settled (value : α) : Use ε α → Answer ε α → Prop where
  | get : Settled value .get (.found (some value))
  | set (offered : α) : Settled value (.set offered) (.placement (.rejected offered))
  | init (initializer : Unit → Except ε α) :
    Settled value (.init initializer) (.reply ⟨.ok value, false⟩)

structure Event.Of (event : Event ε α) (kind : Use ε α → Answer ε α → Prop)
    (before after : Option α) : Prop where
  kind : kind event.use event.answer
  before : event.before.get? = before
  after : event.after.get? = after

variable [Interruptible ε]

def perform (cell : WriteOnce α) (use : Use ε α) : Event ε α :=
  match use with
  | .get => ⟨cell, use, .found cell.get?, cell⟩
  | .set offered => ⟨cell, use, .placement (cell.set offered).1, (cell.set offered).2⟩
  | .init initializer =>
    ⟨cell, use, .reply (cell.getOrInit initializer).1, (cell.getOrInit initializer).2⟩

def trace (cell : WriteOnce α) : List (Use ε α) → List (Event ε α)
  | [] => []
  | use :: uses => cell.perform use :: (cell.perform use).after.trace uses

theorem uses_trace (cell : WriteOnce α) (uses : List (Use ε α)) :
    (cell.trace uses).map Event.use = uses := by
  induction uses generalizing cell with
  | nil => rfl
  | cons use uses ih =>
    have hu : (cell.perform use).use = use := by cases use <;> rfl
    rw [trace, List.map_cons, hu, ih]

variable {cell : WriteOnce α} {value : α}

/-- What the lock remembers decides nothing, so only the content of the cell counts. -/
theorem perform_of_empty (h : cell.get? = none) (use : Use ε α) :
    (cell.perform use).Of Vain none none ∨
      ∃ value, (cell.perform use).Of (Filling value) none (some value) := by
  have hv : cell.value? = none := h
  cases use with
  | get => exact .inl ⟨by simpa [perform, h] using Vain.get, h, h⟩
  | set offered =>
    refine .inr ⟨offered, ?_, h, ?_⟩
    · simpa [perform, set, locked_eq, hv] using Filling.set
    · simp [perform, set, locked_eq, hv, get?]
  | init initializer =>
    cases hi : initializer () with
    | error e =>
      refine .inl ⟨?_, h, ?_⟩
      · simpa [perform, getOrInit_eq, fillWith, hv, hi] using Vain.init hi
      · simp [perform, getOrInit_eq, fillWith, hv, hi, get?]
    | ok value =>
      refine .inr ⟨value, ?_, h, ?_⟩
      · simpa [perform, getOrInit_eq, fillWith, hv, hi] using Filling.init hi
      · simp [perform, getOrInit_eq, fillWith, hv, hi, get?]

theorem perform_of_filled (h : cell.get? = some value) (use : Use ε α) :
    (cell.perform use).Of (Settled value) (some value) (some value) := by
  have hv : cell.value? = some value := h
  cases use with
  | get => exact ⟨by simpa [perform, h] using Settled.get, h, h⟩
  | set offered =>
    refine ⟨?_, h, ?_⟩
    · simpa [perform, set, locked_eq, hv] using Settled.set offered
    · simp [perform, set, locked_eq, hv, get?]
  | init initializer =>
    refine ⟨?_, h, ?_⟩
    · simpa [perform, getOrInit_eq, fillWith, hv] using Settled.init initializer
    · simp [perform, getOrInit_eq, fillWith, hv, get?]

theorem trace_of_filled (h : cell.get? = some value) (uses : List (Use ε α)) :
    ∀ event ∈ cell.trace uses, event.Of (Settled value) (some value) (some value) := by
  induction uses generalizing cell with
  | nil => simp [trace]
  | cons use uses ih =>
    have hs := perform_of_filled h use
    intro event hmem
    rw [trace, List.mem_cons] at hmem
    cases hmem with
    | inl heq => exact heq ▸ hs
    | inr hmem => exact ih hs.after event hmem

/-- An empty cell, whether or not a writer of it was interrupted before. -/
theorem trace_of_empty (h : cell.get? = none) (uses : List (Use ε α)) :
    (∀ event ∈ cell.trace uses, event.Of Vain none none) ∨
      ∃ vain filling settled value, cell.trace uses = vain ++ filling :: settled ∧
        (∀ event ∈ vain, event.Of Vain none none) ∧
        filling.Of (Filling value) none (some value) ∧
        ∀ event ∈ settled, event.Of (Settled value) (some value) (some value) := by
  induction uses generalizing cell with
  | nil => exact .inl (by simp [trace])
  | cons use uses ih =>
    rw [trace]
    rcases perform_of_empty h use with hs | ⟨value, hs⟩
    · rcases ih hs.after with
        hvain | ⟨vain, filling, settled, value, heq, hvain, hfilling, hsettled⟩
      · exact .inl (List.forall_mem_cons.mpr ⟨hs, hvain⟩)
      · refine .inr ⟨cell.perform use :: vain, filling, settled, value, ?_, ?_, hfilling, hsettled⟩
        · rw [heq, List.cons_append]
        · exact List.forall_mem_cons.mpr ⟨hs, hvain⟩
    · exact .inr ⟨[], _, _, value, rfl, by simp, hs, trace_of_filled hs.after uses⟩

/-- A run of a fresh cell has at most one event that fills it. Up to there every use is in vain: a
look finds nothing, and an initializer that ends without a value hands on how it ended and leaves
the cell to the next one. From there on every use finds that one value, and no initializer runs. -/
theorem trace_fills_once (uses : List (Use ε α)) :
    ((empty : WriteOnce α).trace uses).map Event.use = uses ∧
      ((∀ event ∈ (empty : WriteOnce α).trace uses, event.Of Vain none none) ∨
        ∃ vain filling settled value,
          (empty : WriteOnce α).trace uses = vain ++ filling :: settled ∧
          (∀ event ∈ vain, event.Of Vain none none) ∧
          filling.Of (Filling value) none (some value) ∧
          ∀ event ∈ settled, event.Of (Settled value) (some value) (some value)) :=
  ⟨uses_trace empty uses, trace_of_empty rfl uses⟩

/-- The lock is taken again after an interruption. -/
example :
    let uses : List (Use (Ending Unit) Nat) :=
      [.init fun _ => .error .interrupted, .get, .init fun _ => .ok 1, .set 2, .get]
    ((empty : WriteOnce Nat).trace uses).map Event.answer =
      [.reply ⟨.error .interrupted, true⟩, .found none, .reply ⟨.ok 1, true⟩,
        .placement (.rejected 2), .found (some 1)] := rfl

end Argon2Native.WriteOnce
