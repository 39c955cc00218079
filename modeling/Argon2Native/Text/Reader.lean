/-!
Readers: functions that take a value off the front of a text, or refuse it. A reader that refuses
has taken nothing, so an alternative starts where the first one did.
-/
namespace Argon2Native

abbrev Reader (α : Type) := StateT (List Char) Option α

namespace Reader

variable {α β : Type}

def refuse : Reader α := failure

def one (holds : Char → Bool) : Reader Char := fun
  | c :: rest => if holds c then some (c, rest) else none
  | [] => none

def char (c : Char) : Reader Unit := fun
  | d :: rest => if c = d then some ((), rest) else none
  | [] => none

def run (holds : Char → Bool) : Reader (List Char) := fun s =>
  some (s.takeWhile holds, s.dropWhile holds)

def run1 (holds : Char → Bool) : Reader (List Char) := do
  return (← one holds) :: (← run holds)

def exactly (expected : String) : Reader Unit := fun s =>
  if expected.toList.isPrefixOf s then some ((), s.drop expected.length) else none

def ahead (r : Reader α) : Reader Unit := fun s => (r s).map fun _ => ((), s)

def finished : Reader Unit := fun s => if s = [] then some ((), []) else none

def manyWithin (r : Reader α) : List Char → Reader (List α)
  | [] => pure []
  | _ :: bound => fun s =>
    match r s with
    | none => some ([], s)
    | some (a, rest) => (manyWithin r bound rest).map fun (as, rest) => (a :: as, rest)

/-- As many as there are; each must take something, so the text bounds their number. -/
def many (r : Reader α) : Reader (List α) := fun s => manyWithin r s s

def separated (r : Reader α) (separator : Reader β) : Reader (List α) := do
  return (← r) :: (← many (separator *> r))

def whole (r : Reader α) (s : String) : Option α := ((r <* finished) s.toList).map (·.1)

end Reader
end Argon2Native
