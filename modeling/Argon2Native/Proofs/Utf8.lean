import Argon2Native.Text.Utf8
import Argon2Native.Proofs.EncodedText
/-!
Well-formed UTF-8 by its grammar: one to four octets for each scalar value, with bounds on the
second one that leave out overlong forms, surrogates and values past U+10FFFF.

Main statement: `wellFormed_iff`, octets are well-formed exactly if they are those of a text.
-/
namespace Argon2Native.Utf8

inductive OneScalar : Bytes → Prop where
  | one {a : UInt8} (ha : a ≤ 0x7F) : OneScalar [a]
  | two {a x : UInt8} (ha : 0xC2 ≤ a ∧ a ≤ 0xDF) (hx : continues x) : OneScalar [a, x]
  | three {a x y : UInt8} (ha : 0xE0 ≤ a ∧ a ≤ 0xEF) (hx : secondOfThree a x)
      (hy : continues y) : OneScalar [a, x, y]
  | four {a x y z : UInt8} (ha : 0xF0 ≤ a ∧ a ≤ 0xF4) (hx : secondOfFour a x)
      (hy : continues y) (hz : continues z) : OneScalar [a, x, y, z]

inductive WellFormed : Bytes → Prop where
  | nil : WellFormed []
  | cons {scalar rest : Bytes} (hs : OneScalar scalar) (hr : WellFormed rest) :
    WellFormed (scalar ++ rest)

section bounds

variable {a x low high : UInt8}

theorem between_iff : low ≤ x ∧ x ≤ high ↔ low.toNat ≤ x.toNat ∧ x.toNat ≤ high.toNat := by
  rw [UInt8.le_iff_toNat_le, UInt8.le_iff_toNat_le]

theorem within_iff :
    (low ≤ x && x ≤ high) = true ↔ low.toNat ≤ x.toNat ∧ x.toNat ≤ high.toNat := by
  rw [Bool.and_eq_true, decide_eq_true_iff, decide_eq_true_iff, between_iff]

theorem continues_iff : continues x ↔ 0x80 ≤ x.toNat ∧ x.toNat ≤ 0xBF := within_iff

/-- Of two leads, one narrows the second octet from below and the other one from above. -/
theorem narrowed_iff {p q : UInt8} (hpq : p ≠ q) (hlow : 0x80 ≤ low.toNat)
    (hhigh : high.toNat ≤ 0xBF) :
    (if a = p then low ≤ x && x ≤ 0xBF else if a = q then 0x80 ≤ x && x ≤ high else continues x) =
        true ↔
      0x80 ≤ x.toNat ∧ x.toNat ≤ 0xBF ∧
        (a = p → low.toNat ≤ x.toNat) ∧ (a = q → x.toNat ≤ high.toNat) := by
  by_cases hp : a = p
  · have hq : a ≠ q := hp ▸ hpq
    rw [if_pos hp, within_iff, forall_prop_of_true hp, forall_prop_of_false hq]
    simp only [UInt8.reduceToNat, and_true]
    omega
  by_cases hq : a = q
  · rw [if_neg hp, if_pos hq, within_iff, forall_prop_of_false hp, forall_prop_of_true hq]
    simp only [UInt8.reduceToNat, true_and]
    omega
  · rw [if_neg hp, if_neg hq, continues_iff, forall_prop_of_false hp, forall_prop_of_false hq,
      and_true, and_true]

theorem secondOfThree_iff : secondOfThree a x ↔ 0x80 ≤ x.toNat ∧ x.toNat ≤ 0xBF ∧
    (a.toNat = 0xE0 → 0xA0 ≤ x.toNat) ∧ (a.toNat = 0xED → x.toNat ≤ 0x9F) := by
  rw [secondOfThree, narrowed_iff (by decide) (by decide) (by decide), ← UInt8.toNat_inj,
    ← UInt8.toNat_inj]
  rfl

theorem secondOfFour_iff : secondOfFour a x ↔ 0x80 ≤ x.toNat ∧ x.toNat ≤ 0xBF ∧
    (a.toNat = 0xF0 → 0x90 ≤ x.toNat) ∧ (a.toNat = 0xF4 → x.toNat ≤ 0x8F) := by
  rw [secondOfFour, narrowed_iff (by decide) (by decide) (by decide), ← UInt8.toNat_inj,
    ← UInt8.toNat_inj]
  rfl

end bounds

section scalars

theorem ofNat_eq_of_toNat {n : Nat} {b : UInt8} (h : n = b.toNat) : UInt8.ofNat n = b := by
  rw [h, UInt8.ofNat_toNat]

/-- Every number in range that is no surrogate is that of a character. -/
theorem exists_char {n : Nat} (h : n < 0xD800 ∨ 0xDFFF < n ∧ n < 0x110000) :
    ∃ c : Char, c.val.toNat = n := by
  have hn : (UInt32.ofNat n).toNat = n := by
    rw [UInt32.toNat_ofNat', Nat.mod_eq_of_lt (by omega)]
  refine ⟨⟨UInt32.ofNat n, ?_⟩, hn⟩
  change (UInt32.ofNat n).toNat.isValidChar
  rwa [hn]

/-- The length goes by the value, and with it the bounds on the lead and on the second octet. -/
theorem oneScalar_utf8EncodeChar (c : Char) : OneScalar (String.utf8EncodeChar c) := by
  have hvalid : c.val.toNat < 0xD800 ∨ 0xDFFF < c.val.toNat ∧ c.val.toNat < 0x110000 := c.valid
  unfold String.utf8EncodeChar
  generalize c.val.toNat = n at hvalid ⊢
  dsimp only
  split
  · refine .one ?_
    simp only [UInt8.le_iff_toNat_le, UInt8.toNat_ofNat', UInt8.reduceToNat]
    omega
  split
  · refine .two ?_ ?_
    · simp only [between_iff, UInt8.toNat_ofNat', UInt8.reduceToNat]
      omega
    · simp only [continues_iff, UInt8.toNat_ofNat']
      omega
  split
  · refine .three ?_ ?_ ?_
    · simp only [between_iff, UInt8.toNat_ofNat', UInt8.reduceToNat]
      omega
    · simp only [secondOfThree_iff, UInt8.toNat_ofNat']
      omega
    · simp only [continues_iff, UInt8.toNat_ofNat']
      omega
  · refine .four ?_ ?_ ?_ ?_
    · simp only [between_iff, UInt8.toNat_ofNat', UInt8.reduceToNat]
      omega
    · simp only [secondOfFour_iff, UInt8.toNat_ofNat']
      omega
    · simp only [continues_iff, UInt8.toNat_ofNat']
      omega
    · simp only [continues_iff, UInt8.toNat_ofNat']
      omega

/-- The value is read off the octets, and the bounds say that it is one of a character and that it
is written in as many octets. -/
theorem exists_char_of_oneScalar {b : Bytes} (h : OneScalar b) :
    ∃ c : Char, String.utf8EncodeChar c = b := by
  cases h with
  | @one a ha =>
    simp only [UInt8.le_iff_toNat_le, UInt8.reduceToNat] at ha
    obtain ⟨c, hc⟩ := exists_char (n := a.toNat) (by omega)
    refine ⟨c, ?_⟩
    simp only [String.utf8EncodeChar, hc]
    rw [if_pos ha, ofNat_eq_of_toNat rfl]
  | @two a x ha hx =>
    simp only [between_iff, UInt8.reduceToNat, continues_iff] at ha hx
    obtain ⟨c, hc⟩ := exists_char (n := (a.toNat - 0xC0) * 64 + (x.toNat - 0x80)) (by omega)
    refine ⟨c, ?_⟩
    simp only [String.utf8EncodeChar, hc]
    rw [if_neg (by omega), if_pos (by omega), ofNat_eq_of_toNat (b := a) (by omega),
      ofNat_eq_of_toNat (b := x) (by omega)]
  | @three a x y ha hx hy =>
    simp only [between_iff, UInt8.reduceToNat, continues_iff, secondOfThree_iff] at ha hx hy
    obtain ⟨c, hc⟩ := exists_char
      (n := ((a.toNat - 0xE0) * 64 + (x.toNat - 0x80)) * 64 + (y.toNat - 0x80)) (by omega)
    refine ⟨c, ?_⟩
    simp only [String.utf8EncodeChar, hc]
    rw [if_neg (by omega), if_neg (by omega), if_pos (by omega),
      ofNat_eq_of_toNat (b := a) (by omega), ofNat_eq_of_toNat (b := x) (by omega),
      ofNat_eq_of_toNat (b := y) (by omega)]
  | @four a x y z ha hx hy hz =>
    simp only [between_iff, UInt8.reduceToNat, continues_iff, secondOfFour_iff] at ha hx hy hz
    obtain ⟨c, hc⟩ := exists_char
      (n := (((a.toNat - 0xF0) * 64 + (x.toNat - 0x80)) * 64 + (y.toNat - 0x80)) * 64 +
        (z.toNat - 0x80)) (by omega)
    refine ⟨c, ?_⟩
    simp only [String.utf8EncodeChar, hc]
    rw [if_neg (by omega), if_neg (by omega), if_neg (by omega),
      ofNat_eq_of_toNat (b := a) (by omega), ofNat_eq_of_toNat (b := x) (by omega),
      ofNat_eq_of_toNat (b := y) (by omega), ofNat_eq_of_toNat (b := z) (by omega)]

end scalars

theorem wellFormed_ofText (s : String) : WellFormed (Bytes.ofText s) := by
  rw [Bytes.ofText_eq_flatMap]
  induction s.toList with
  | nil => exact .nil
  | cons c cs ih => exact .cons (oneScalar_utf8EncodeChar c) ih

theorem exists_text_of_wellFormed {b : Bytes} (h : WellFormed b) :
    ∃ s, b = Bytes.ofText s := by
  induction h with
  | nil => exact ⟨"", rfl⟩
  | cons hs hr ih =>
    obtain ⟨c, rfl⟩ := exists_char_of_oneScalar hs
    obtain ⟨s, rfl⟩ := ih
    refine ⟨String.ofList (c :: s.toList), ?_⟩
    rw [Bytes.ofText_eq_flatMap, Bytes.ofText_eq_flatMap, String.toList_ofList, List.flatMap_cons]

theorem wellFormed_iff {b : Bytes} : WellFormed b ↔ ∃ s, Bytes.text? b = some s := by
  simp only [Bytes.text?_eq_some_iff]
  constructor
  · exact exists_text_of_wellFormed
  · rintro ⟨s, rfl⟩
    exact wellFormed_ofText s

end Argon2Native.Utf8
