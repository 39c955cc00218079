/-!
Plain decimal numbers: ASCII digits, no sign, no leading zero but in `0` itself. Reading inverts
writing, and only the written form of a number reads back.

Main statements: `parse?_eq_some_iff` and, for numbers of 32 bits, `word?_eq_some_iff`.
-/
namespace Argon2Native.Decimal

def render (n : Nat) : List Char := Nat.toDigits 10 n

def digitCount (n : Nat) : Nat := (render n).length

def value (digits : List Char) : Nat :=
  digits.foldl (fun n c => 10 * n + (c.toNat - '0'.toNat)) 0

def IsCanonical (cs : List Char) : Prop :=
  cs ≠ [] ∧ cs.all Char.isDigit ∧ (cs.head? = some '0' → cs.length = 1)

instance (cs : List Char) : Decidable (IsCanonical cs) :=
  inferInstanceAs (Decidable (_ ∧ _ ∧ (_ → _)))

def parse? (cs : List Char) : Option Nat :=
  if IsCanonical cs then some (value cs) else none

def word? (cs : List Char) : Option UInt32 :=
  (parse? cs).bind fun n => if n < UInt32.size then some n.toUInt32 else none

theorem value_append (cs : List Char) (c : Char) :
    value (cs ++ [c]) = 10 * value cs + (c.toNat - '0'.toNat) := by
  simp [value]

@[simp] theorem value_render (n : Nat) : value (render n) = n := Nat.ofDigitChars_ten_toDigits

theorem render_of_lt {n : Nat} (h : n < 10) : render n = [n.digitChar] :=
  Nat.toDigits_of_lt_base h

theorem render_append {n d : Nat} (hn : 0 < n) (hd : d < 10) :
    render n ++ [d.digitChar] = render (10 * n + d) := by
  rw [← render_of_lt hd]
  exact Nat.toDigits_append_toDigits (by decide) hn hd

@[simp] theorem render_ne_nil (n : Nat) : render n ≠ [] := Nat.toDigits_ne_nil

theorem isDigit_of_mem_render {n : Nat} {c : Char} (h : c ∈ render n) : c.isDigit :=
  Nat.isDigit_of_mem_toDigits (by decide) (by decide) h

theorem eq_zero_of_render_eq {n : Nat} (h : render n = ['0']) : n = 0 := by
  simpa [h, value] using (value_render n).symm

theorem length_render_of_head? {n : Nat} (h : (render n).head? = some '0') :
    (render n).length = 1 := by
  induction n using Nat.strongRecOn with
  | ind n ih =>
    by_cases hn : n < 10
    · simp [render_of_lt hn]
    · have hs : render n = render (n / 10) ++ [(n % 10).digitChar] := by
        rw [render_append (by omega) (by omega), Nat.div_add_mod]
      have h0 : (render (n / 10)).head? = some '0' := by
        rwa [hs, List.head?_append, List.head?_eq_some_head (render_ne_nil _), Option.some_or,
          ← List.head?_eq_some_head] at h
      obtain ⟨c, hc⟩ := List.length_eq_one_iff.mp (ih (n / 10) (by omega) h0)
      obtain rfl : c = '0' := by simpa [hc] using h0
      have := eq_zero_of_render_eq hc
      omega

theorem isCanonical_render (n : Nat) : IsCanonical (render n) :=
  ⟨render_ne_nil n, List.all_eq_true.mpr fun _ => isDigit_of_mem_render, length_render_of_head?⟩

theorem digitChar_of_isDigit {c : Char} (h : c.isDigit) :
    c.toNat - '0'.toNat < 10 ∧ (c.toNat - '0'.toNat).digitChar = c := by
  have hb : 48 ≤ c.toNat ∧ c.toNat ≤ 57 := by
    simpa [Char.isDigit, UInt32.le_iff_toNat_le] using h
  have hs : '0'.toNat = 48 := rfl
  refine ⟨by omega, Char.toNat_inj.mp ?_⟩
  rw [Nat.toNat_digitChar_of_lt_ten (by omega)]
  omega

/-- Digits after a number that is not zero go on with it. -/
theorem render_append_digits {n : Nat} (hn : 0 < n) {cs : List Char} (h : ∀ c ∈ cs, c.isDigit) :
    render n ++ cs = render (cs.foldl (fun n c => 10 * n + (c.toNat - '0'.toNat)) n) := by
  induction cs generalizing n with
  | nil => rw [List.append_nil, List.foldl_nil]
  | cons c cs ih =>
    rw [List.forall_mem_cons] at h
    obtain ⟨hlt, hchar⟩ := digitChar_of_isDigit h.1
    rw [List.foldl_cons, ← ih (by omega) h.2, ← render_append hn hlt, hchar, List.append_assoc,
      List.singleton_append]

/-- A decimal without a leading zero is the written form of its value. -/
theorem render_value {cs : List Char} (h : IsCanonical cs) : render (value cs) = cs := by
  obtain ⟨hne, hdigits, hzero⟩ := h
  cases cs with
  | nil => exact absurd rfl hne
  | cons c cs =>
    rw [List.all_eq_true, List.forall_mem_cons] at hdigits
    obtain ⟨hlt, hchar⟩ := digitChar_of_isDigit hdigits.1
    by_cases hc : c = '0'
    · subst hc
      obtain rfl : cs = [] := List.eq_nil_of_length_eq_zero (Nat.succ.inj (hzero rfl))
      rfl
    · have hpos : 0 < c.toNat - '0'.toNat := by
        refine Nat.pos_of_ne_zero fun h0 => hc ?_
        rw [← hchar, h0]
        rfl
      rw [value, List.foldl_cons, Nat.mul_zero, Nat.zero_add,
        ← render_append_digits hpos hdigits.2, render_of_lt hlt, hchar, List.singleton_append]

theorem parse?_eq_some_iff {cs : List Char} {n : Nat} : parse? cs = some n ↔ cs = render n := by
  unfold parse?
  constructor
  · intro h
    split at h
    · rename_i hc
      rw [← Option.some.inj h, render_value hc]
    · cases h
  · intro h
    subst h
    rw [if_pos (isCanonical_render n), value_render]

theorem word?_eq_some_iff {cs : List Char} {n : UInt32} :
    word? cs = some n ↔ cs = render n.toNat := by
  constructor
  · intro h
    obtain ⟨m, hm, hn⟩ := Option.bind_eq_some_iff.mp h
    split at hn
    · rename_i hlt
      rw [parse?_eq_some_iff.mp hm, ← Option.some.inj hn]
      simp [Nat.mod_eq_of_lt hlt]
    · cases hn
  · intro h
    subst h
    simp [word?, parse?_eq_some_iff.mpr rfl, n.toNat_lt]

end Argon2Native.Decimal
