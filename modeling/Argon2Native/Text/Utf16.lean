/-!
Text as UTF-16 code units. A character is one unit that is no surrogate, or a high surrogate and a
low one; a sequence of units need not be text, as a surrogate may stand alone.

Main statement: `text?_ofText`, the units of a text read back as the text.
-/
namespace Argon2Native.Utf16

def ofChar (c : Char) : List UInt16 :=
  if c.toNat < 0x10000 then [c.toNat.toUInt16]
  else
    let n := c.toNat - 0x10000
    [(0xD800 + n / 0x400).toUInt16, (0xDC00 + n % 0x400).toUInt16]

def ofText (s : String) : List UInt16 := s.toList.flatMap ofChar

def isHigh (u : UInt16) : Bool := 0xD800 ≤ u && u < 0xDC00
def isLow (u : UInt16) : Bool := 0xDC00 ≤ u && u < 0xE000

def chars? : List UInt16 → Option (List Char)
  | [] => some []
  | u :: v :: rest =>
    if isHigh u && isLow v then
      (chars? rest).map
        (Char.ofNat (0x10000 + (u.toNat - 0xD800) * 0x400 + (v.toNat - 0xDC00)) :: ·)
    else if isHigh u || isLow u then none
    else (chars? (v :: rest)).map (Char.ofNat u.toNat :: ·)
  | [u] => if isHigh u || isLow u then none else some [Char.ofNat u.toNat]

def text? (units : List UInt16) : Option String := (chars? units).map String.ofList

theorem toNat_ofNat {n : Nat} (h : n.isValidChar) : (Char.ofNat n).toNat = n := by
  rw [Char.ofNat, dif_pos h]
  rfl

theorem ofChar_ofNat {u : UInt16} (hu : u.toNat < 0xD800) :
    ofChar (Char.ofNat u.toNat) = [u] := by
  have hn : (Char.ofNat u.toNat).toNat = u.toNat := toNat_ofNat (.inl hu)
  rw [ofChar, hn, if_pos (by omega), Nat.toUInt16, UInt16.ofNat_toNat]

theorem isHigh_eq_false_iff {u : UInt16} :
    isHigh u = false ↔ u.toNat < 0xD800 ∨ 0xDC00 ≤ u.toNat := by
  simp only [isHigh, Bool.and_eq_false_iff, decide_eq_false_iff_not, UInt16.le_iff_toNat_le,
    UInt16.lt_iff_toNat_lt, UInt16.reduceToNat]
  omega

theorem isLow_eq_false_iff {u : UInt16} :
    isLow u = false ↔ u.toNat < 0xDC00 ∨ 0xE000 ≤ u.toNat := by
  simp only [isLow, Bool.and_eq_false_iff, decide_eq_false_iff_not, UInt16.le_iff_toNat_le,
    UInt16.lt_iff_toNat_lt, UInt16.reduceToNat]
  omega

theorem chars?_cons {u : UInt16} (hu : u.toNat < 0xD800 ∨ 0xE000 ≤ u.toNat) (units : List UInt16) :
    chars? (u :: units) = (chars? units).map (Char.ofNat u.toNat :: ·) := by
  have hhigh : isHigh u = false := isHigh_eq_false_iff.mpr (by omega)
  have hlow : isLow u = false := isLow_eq_false_iff.mpr (by omega)
  cases units with
  | nil => simp [chars?, hhigh, hlow]
  | cons v units => simp [chars?, hhigh, hlow]

theorem chars?_ofChar (c : Char) (units : List UInt16) :
    chars? (ofChar c ++ units) = (chars? units).map (c :: ·) := by
  have hvalid : c.toNat < 0xD800 ∨ 0xDFFF < c.toNat ∧ c.toNat < 0x110000 := c.valid
  rw [ofChar]
  split
  · next hc =>
    have hu : c.toNat.toUInt16.toNat = c.toNat := UInt16.toNat_ofNat_of_lt' hc
    rw [List.singleton_append, chars?_cons (by omega), hu, Char.ofNat_toNat]
  · next hc =>
    have hsize : UInt16.size = 0x10000 := rfl
    have hhigh : (0xD800 + (c.toNat - 0x10000) / 0x400).toUInt16.toNat =
        0xD800 + (c.toNat - 0x10000) / 0x400 := UInt16.toNat_ofNat_of_lt' (by omega)
    have hlow : (0xDC00 + (c.toNat - 0x10000) % 0x400).toUInt16.toNat =
        0xDC00 + (c.toNat - 0x10000) % 0x400 := UInt16.toNat_ofNat_of_lt' (by omega)
    have hpair : isHigh (0xD800 + (c.toNat - 0x10000) / 0x400).toUInt16 ∧
        isLow (0xDC00 + (c.toNat - 0x10000) % 0x400).toUInt16 := by
      rw [← Bool.not_eq_false, ← Bool.not_eq_false, isHigh_eq_false_iff, isLow_eq_false_iff]
      omega
    have hn : 0x10000 + (0xD800 + (c.toNat - 0x10000) / 0x400 - 0xD800) * 0x400 +
        (0xDC00 + (c.toNat - 0x10000) % 0x400 - 0xDC00) = c.toNat := by
      omega
    simp only [List.cons_append, List.nil_append, chars?, hpair, Bool.and_self, if_true, hhigh,
      hlow, hn, Char.ofNat_toNat]

theorem text?_ofText (s : String) : text? (ofText s) = some s := by
  have hchars : ∀ cs : List Char, chars? (cs.flatMap ofChar) = some cs := by
    intro cs
    induction cs with
    | nil => rfl
    | cons c cs ih => rw [List.flatMap_cons, chars?_ofChar, ih, Option.map_some]
  rw [text?, ofText, hchars, Option.map_some, String.ofList_toList]

end Argon2Native.Utf16
