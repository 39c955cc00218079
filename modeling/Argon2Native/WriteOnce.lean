/-!
A cell that is filled at most once. Readers only look; writers take a lock, which remembers whether
a writer was interrupted while holding it. An initializer that ends without a value, by a failure or
by being interrupted, leaves the cell empty.

Main statements: `locked_eq`, an interruption bars no writer that comes after it, and
`getOrInit_eq`, looking before taking the lock changes nothing.
-/
namespace Argon2Native

structure WriteOnce (α : Type) where
  value? : Option α
  /-- Whether a writer was interrupted under the lock. -/
  poisoned : Bool := false

namespace WriteOnce

variable {α ε : Type}

def empty : WriteOnce α := { value? := none }

def get? (cell : WriteOnce α) : Option α := cell.value?

/-- What the lock lets a writer work on, given as an error once a writer was interrupted. -/
def lock (cell : WriteOnce α) : Except (WriteOnce α) (WriteOnce α) :=
  if cell.poisoned then .error cell else .ok cell

/-- A writer writes last of all, so one that was interrupted wrote nothing, and the error of the
lock is passed over. -/
def locked (cell : WriteOnce α) : WriteOnce α :=
  match cell.lock with
  | .ok cell | .error cell => cell

theorem locked_eq (cell : WriteOnce α) : cell.locked = cell := by
  unfold locked lock
  cases cell.poisoned <;> rfl

inductive Placement (α : Type) where
  | placed
  /-- The cell holds a value already, and the one offered goes back. -/
  | rejected (offered : α)

def set (cell : WriteOnce α) (value : α) : Placement α × WriteOnce α :=
  let cell := cell.locked
  match cell.value? with
  | none => (.placed, { cell with value? := some value })
  | some _ => (.rejected value, cell)

inductive Ending (ε : Type) where
  | failed (e : ε)
  | interrupted

class Interruptible (ε : Type) where
  interrupts : ε → Bool

instance : Interruptible (Ending ε) where
  interrupts
    | .failed _ => false
    | .interrupted => true

structure Reply (ε α : Type) where
  result : Except ε α
  ran : Bool

variable [Interruptible ε]

def fillWith (cell : WriteOnce α) (init : Unit → Except ε α) : Reply ε α × WriteOnce α :=
  -- under the lock: another writer may have come first
  match cell.value? with
  | some value => (⟨.ok value, false⟩, cell)
  | none =>
    match init () with
    | .ok value => (⟨.ok value, true⟩, { cell with value? := some value })
    | .error e =>
      (⟨.error e, true⟩, { cell with poisoned := cell.poisoned || Interruptible.interrupts e })

def getOrInit (cell : WriteOnce α) (init : Unit → Except ε α) : Reply ε α × WriteOnce α :=
  match cell.value? with
  | some value => (⟨.ok value, false⟩, cell)
  | none => cell.locked.fillWith init

/-- The first look only saves the lock: a use whose look is out of date by the time it has the lock
is as one that begins then. -/
theorem getOrInit_eq (cell : WriteOnce α) (init : Unit → Except ε α) :
    cell.getOrInit init = cell.fillWith init := by
  unfold getOrInit
  cases h : cell.value? with
  | none => simp only [locked_eq]
  | some value => simp only [fillWith, h]

end WriteOnce
end Argon2Native
