import Argon2Native.Text.Utf8
/-!
Slash-separated paths. A path is its octets as written; two paths name the same place when their
components agree, where repeated and trailing slashes and every `.` but a leading one do not count.

Main statement: `findAncestor?_eq`, which looks at no more ancestors than it must.
-/
namespace Argon2Native

structure Path where
  octets : Bytes
  deriving DecidableEq

namespace Path

def slash : UInt8 := 0x2F
def dot : UInt8 := 0x2E

def ofText (s : String) : Path := ⟨Bytes.ofText s⟩

def display (p : Path) : String := Utf8.lossyText p.octets

def isAbsolute (p : Path) : Bool := p.octets.head? = some slash

def join (base p : Path) : Path :=
  if p.isAbsolute then p
  else if base.octets = [] ∨ base.octets.getLast? = some slash then ⟨base.octets ++ p.octets⟩
  else ⟨base.octets ++ slash :: p.octets⟩

instance : Append Path := ⟨join⟩

/-- What stands before the first name: the root, an explicit working directory, or nothing. -/
inductive Anchor where
  | root
  | here
  | bare
  deriving DecidableEq

def split (p : Path) : Anchor × List Bytes :=
  match p.octets.splitOn slash with
  | [] :: first :: rest => (.root, first :: rest)
  | first :: rest => if first = [dot] then (.here, rest) else (.bare, first :: rest)
  | [] => (.bare, [])

def Names (piece : Bytes) : Prop := piece ≠ [] ∧ piece ≠ [dot]

instance (piece : Bytes) : Decidable (Names piece) := inferInstanceAs (Decidable (_ ∧ _))

def components (p : Path) : Anchor × List Bytes := (p.split.1, p.split.2.filter (Names ·))

def Same (p q : Path) : Prop := p.components = q.components

instance (p q : Path) : Decidable (Same p q) := inferInstanceAs (Decidable (_ = _))

def trimEnd : Bytes → Bytes
  | b :: c :: rest =>
    -- the octets come from the end: a last slash goes, and a last dot after a slash
    if b = slash ∨ b = dot ∧ c = slash then trimEnd (c :: rest) else b :: c :: rest
  | short => short

theorem length_trimEnd_le (backwards : Bytes) : (trimEnd backwards).length ≤ backwards.length := by
  fun_induction trimEnd backwards with
  | case1 b c rest h ih => simp only [List.length_cons] at ih ⊢; omega
  | case2 => exact Nat.le_refl _
  | case3 => exact Nat.le_refl _

/-- One name less at the end, and nothing that names nothing. The root, written as a slash, and the
empty path are in no directory. -/
def dropName? (backwards : Bytes) : Option Bytes :=
  match trimEnd backwards with
  | [] => none
  | b :: rest => if b = slash then none else some (trimEnd (rest.dropWhile (· ≠ slash)))

theorem length_lt_of_dropName? {backwards up : Bytes} (h : dropName? backwards = some up) :
    up.length < backwards.length := by
  unfold dropName? at h
  split at h
  · cases h
  · next b rest hb =>
    split at h
    · cases h
    · cases h
      have hlen := length_trimEnd_le backwards
      have hup := length_trimEnd_le (rest.dropWhile (· ≠ slash))
      have hdrop := (List.dropWhile_sublist (l := rest) (· ≠ slash)).length_le
      rw [hb, List.length_cons] at hlen
      omega

def parentsBackwards (backwards : Bytes) : List Bytes :=
  match _h : dropName? backwards with
  | some up => up :: parentsBackwards up
  | none => []
termination_by backwards.length
decreasing_by exact length_lt_of_dropName? ‹_›

def ofBackwards (backwards : Bytes) : Path := ⟨backwards.reverse⟩

def parent? (p : Path) : Option Path := (dropName? p.octets.reverse).map ofBackwards

def ancestors (p : Path) : List Path := p :: (parentsBackwards p.octets.reverse).map ofBackwards

def findAncestor? {α : Type} (p : Path) (search : Path → Option α) : Option α :=
  (search p).or ((parentsBackwards p.octets.reverse).findSome? (search ∘ ofBackwards))

theorem findAncestor?_eq {α : Type} (p : Path) (search : Path → Option α) :
    p.findAncestor? search = p.ancestors.findSome? search := by
  rw [findAncestor?, ancestors, List.findSome?_cons, List.findSome?_map]
  cases search p <;> rfl

end Path
end Argon2Native
