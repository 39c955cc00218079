import Argon2Native.Text.CaseTable
/-!
White space and case, which a value of a variable may have as it likes. Text is lowercased in full,
with the two mappings that are not one character for one regardless of what stands around, or over
ASCII letters alone.
-/
namespace Argon2Native.Blank

def isBlank (c : Char) : Bool :=
  (0x9 ≤ c.toNat && c.toNat ≤ 0xD) || c.toNat == 0x20 || c.toNat == 0x85 || c.toNat == 0xA0 ||
  c.toNat == 0x1680 || (0x2000 ≤ c.toNat && c.toNat ≤ 0x200A) || c.toNat == 0x2028 ||
  c.toNat == 0x2029 || c.toNat == 0x202F || c.toNat == 0x205F || c.toNat == 0x3000

def trim (cs : List Char) : List Char :=
  ((cs.dropWhile isBlank).reverse.dropWhile isBlank).reverse

end Argon2Native.Blank

namespace Argon2Native.Lowercase

def simple (c : Char) : Char :=
  match CaseTable.lowercaseRuns.find? (·.holds c.toNat) with
  | some run => Char.ofNat (c.toNat + run.shift).toNat
  | none => c

def meetsLetter (cs : List Char) : Bool :=
  match cs.find? fun c => !CaseTable.within CaseTable.ignorableRanges c.toNat with
  | some c => CaseTable.within CaseTable.casedRanges c.toNat
  | none => false

/-- The lowercase form of `c` between `before`, read backwards, and `after`. A dotted capital I
keeps its dot as a mark of its own, and a sigma that ends a word has its final form. -/
def form (before : List Char) (c : Char) (after : List Char) : List Char :=
  if c = '\u0130' then ['i', '\u0307']
  else if c = '\u03A3' then
    [if meetsLetter before && !meetsLetter after then '\u03C2' else '\u03C3']
  else [simple c]

def formsAfter (before : List Char) : List Char → List Char
  | [] => []
  | c :: after => form before c after ++ formsAfter (c :: before) after

def full (s : String) : String := String.ofList (formsAfter [] s.toList)

def ascii (s : String) : String := s.map Char.toLower

end Argon2Native.Lowercase
