import Argon2Native.Json.Reader
import Mathlib.Data.List.TakeWhile
/-!
JSON text. The compact text of a value reads back as that value, whatever stands after it, as long
as that does not go on with a number.

Main statement: `parse?_print`.
-/
namespace Argon2Native.Json

section strings

theorem hexValue?_hexDigit (n : Nat) : hexValue? (hexDigit n) = some (n % 16) := by
  have hdigits : ∀ d < 16, hexValue? (Nat.digitChar d) = some d := by decide
  exact hdigits (n % 16) (Nat.mod_lt n (by decide))

theorem hexUnit?_hexDigits (u : UInt16) : hexUnit? (hexDigit (u.toNat / 4096))
    (hexDigit (u.toNat / 256)) (hexDigit (u.toNat / 16)) (hexDigit u.toNat) = some u := by
  have hlt := u.toNat_lt
  have hn : ((u.toNat / 4096 % 16 * 16 + u.toNat / 256 % 16) * 16 + u.toNat / 16 % 16) * 16 +
      u.toNat % 16 = u.toNat := by
    omega
  simp only [hexUnit?, hexValue?_hexDigit, bind, Option.bind_some, pure, hn]
  rw [Nat.toUInt16, UInt16.ofNat_toNat]

theorem readUnits_plain {c : Char} (hquote : c ≠ '"') (hslash : c ≠ '\\') (hlow : ¬c.toNat < 0x20)
    (cs : List Char) :
    readUnits (c :: cs) =
      (readUnits cs).map fun (units, rest) => (Utf16.ofChar c ++ units, rest) := by
  rw [readUnits.eq_def]
  simp only [if_neg hquote, if_neg hslash, if_neg hlow]
  cases readUnits cs <;> rfl

theorem readUnits_escaped (h₁ h₂ h₃ h₄ : Char) (cs : List Char) :
    readUnits ('\\' :: 'u' :: h₁ :: h₂ :: h₃ :: h₄ :: cs) = (hexUnit? h₁ h₂ h₃ h₄).bind fun u =>
      (readUnits cs).map fun (units, rest) => (u :: units, rest) := by
  rw [readUnits.eq_3, if_neg (by decide), if_pos rfl, if_pos rfl]
  cases hexUnit? h₁ h₂ h₃ h₄ with
  | none => rfl
  | some u => cases readUnits cs <;> rfl

theorem readUnits_quote (cs : List Char) : readUnits ('"' :: cs) = some ([], cs) := by
  rw [readUnits.eq_def]
  exact if_pos rfl

theorem readUnits_printUnit {u : UInt16} {cs rest : List Char} {units : List UInt16}
    (h : readUnits cs = some (units, rest)) :
    readUnits (printUnit u ++ cs) = some (u :: units, rest) := by
  rw [printUnit]
  split
  · next hplain =>
    have hn : (Char.ofNat u.toNat).toNat = u.toNat := Utf16.toNat_ofNat (.inl (by omega))
    have hquote : Char.ofNat u.toNat ≠ '"' := by
      intro hc
      rw [hc] at hn
      exact hplain.2.2.1 hn.symm
    have hslash : Char.ofNat u.toNat ≠ '\\' := by
      intro hc
      rw [hc] at hn
      exact hplain.2.2.2 hn.symm
    rw [List.singleton_append, readUnits_plain hquote hslash (by omega), h,
      Utf16.ofChar_ofNat (by omega)]
    rfl
  · simp only [List.cons_append, List.nil_append, readUnits_escaped, hexUnit?_hexDigits, h]
    rfl

theorem readUnits_printString (units : List UInt16) (rest : List Char) :
    readUnits (units.flatMap printUnit ++ '"' :: rest) = some (units, rest) := by
  induction units with
  | nil => exact readUnits_quote rest
  | cons u units ih =>
    rw [List.flatMap_cons, List.append_assoc]
    exact readUnits_printUnit ih

end strings

section numbers

variable {rest : List Char}

def Ends (rest : List Char) : Prop :=
  ∀ c, rest.head? = some c → ¬c.isDigit ∧ c ≠ '.' ∧ c ≠ 'e' ∧ c ≠ 'E'

theorem readDigits_append {digits : List Char} (hne : digits ≠ []) (hall : ∀ c ∈ digits, c.isDigit)
    (hrest : ∀ c, rest.head? = some c → ¬c.isDigit) :
    readDigits (digits ++ rest) = some (digits, rest) := by
  have htake : rest.takeWhile Char.isDigit = [] := by
    cases rest with
    | nil => rfl
    | cons c cs => rw [List.takeWhile_cons_of_neg (hrest c rfl)]
  have hdrop : rest.dropWhile Char.isDigit = rest := by
    cases rest with
    | nil => rfl
    | cons c cs => rw [List.dropWhile_cons_of_neg (hrest c rfl)]
  rw [readDigits, List.takeWhile_append_of_pos hall, List.dropWhile_append_of_pos hall, htake,
    hdrop, List.append_nil, if_neg hne]

theorem readDigits_render (n : Nat) (hrest : ∀ c, rest.head? = some c → ¬c.isDigit) :
    readDigits (Decimal.render n ++ rest) = some (Decimal.render n, rest) :=
  readDigits_append (Decimal.render_ne_nil n) (fun _ => Decimal.isDigit_of_mem_render) hrest

/-- A written number starts with a digit, and so with no sign. -/
theorem head?_render (n : Nat) {c : Char} (h : (Decimal.render n ++ rest).head? = some c) :
    c.isDigit := by
  rw [List.head?_append, List.head?_eq_some_head (Decimal.render_ne_nil n), Option.some_or] at h
  cases h
  exact Decimal.isDigit_of_mem_render (List.head_mem _)

theorem readSigned_print (e : Int) (hrest : ∀ c, rest.head? = some c → ¬c.isDigit) :
    readSigned ((if e < 0 then ['-'] else []) ++ Decimal.render e.natAbs ++ rest) =
      some (e, rest) := by
  by_cases he : e < 0
  · rw [if_pos he, List.singleton_append, List.cons_append, readSigned]
    simp only [List.head?_cons, List.tail_cons, true_or, if_true,
      readDigits_render e.natAbs hrest, bind, Option.bind_some, Decimal.value_render, pure]
    rw [show -(e.natAbs : Int) = e by omega]
  · rw [if_neg he, List.nil_append, readSigned]
    have hminus : (Decimal.render e.natAbs ++ rest).head? ≠ some '-' := by
      intro h
      exact absurd (head?_render e.natAbs h) (by decide)
    have hplus : (Decimal.render e.natAbs ++ rest).head? ≠ some '+' := by
      intro h
      exact absurd (head?_render e.natAbs h) (by decide)
    simp only [hminus, hplus, or_self, if_false, readDigits_render e.natAbs hrest, bind,
      Option.bind_some, Decimal.value_render, pure]
    rw [show (e.natAbs : Int) = e by omega]

theorem readExponent_print (exponent : Option Int) (hrest : Ends rest) :
    readExponent (printExponent exponent ++ rest) = some (exponent, rest) := by
  cases exponent with
  | none =>
    have hlower : rest.head? ≠ some 'e' := fun h => (hrest _ h).2.2.1 rfl
    have hupper : rest.head? ≠ some 'E' := fun h => (hrest _ h).2.2.2 rfl
    rw [printExponent, List.nil_append, readExponent, if_neg (not_or_intro hlower hupper)]
  | some e =>
    have hsigned := readSigned_print e fun c hc => (hrest c hc).1
    rw [printExponent, List.cons_append, List.cons_append, readExponent, if_pos (.inl rfl),
      List.tail_cons, hsigned]
    rfl

/-- Nothing of an exponent goes on with the digits before it. -/
theorem head?_printExponent (exponent : Option Int) (hrest : Ends rest) {c : Char}
    (h : (printExponent exponent ++ rest).head? = some c) : ¬c.isDigit ∧ c ≠ '.' := by
  cases exponent with
  | none => exact ⟨(hrest c h).1, (hrest c h).2.1⟩
  | some e =>
    obtain rfl : 'e' = c := Option.some.inj h
    decide

theorem readFraction_print (fraction : List (Fin 10))
    (hrest : ∀ c, rest.head? = some c → ¬c.isDigit ∧ c ≠ '.') :
    readFraction (printFraction fraction ++ rest) = some (fraction, rest) := by
  by_cases hf : fraction = []
  · have hpoint : rest.head? ≠ some '.' := fun h => (hrest _ h).2 rfl
    rw [printFraction, if_pos hf, List.nil_append, readFraction, if_neg hpoint, hf]
  · have hdigits : ∀ d : Fin 10, (Nat.digitChar d).isDigit ∧
        Fin.ofNat 10 ((Nat.digitChar d).toNat - '0'.toNat) = d := by
      decide
    have hall : ∀ c ∈ fraction.map fun (d : Fin 10) => Nat.digitChar d, c.isDigit := by
      intro c hc
      obtain ⟨d, -, rfl⟩ := List.mem_map.mp hc
      exact (hdigits d).1
    have hread := readDigits_append (by simpa using hf) hall fun c hc => (hrest c hc).1
    have hmap : (fraction.map fun (d : Fin 10) => Nat.digitChar d).map
        (fun c => Fin.ofNat 10 (c.toNat - '0'.toNat)) = fraction := by
      rw [List.map_map]
      exact (List.map_congr_left fun d _ => (hdigits d).2).trans (List.map_id fraction)
    rw [printFraction, if_neg hf, List.cons_append, readFraction, List.head?_cons, if_pos rfl,
      List.tail_cons, hread]
    exact congrArg (fun digits => some (digits, rest)) hmap

theorem head?_printFraction (fraction : List (Fin 10))
    (hrest : ∀ c, rest.head? = some c → ¬c.isDigit) {c : Char}
    (h : (printFraction fraction ++ rest).head? = some c) : ¬c.isDigit := by
  by_cases hf : fraction = []
  · rw [printFraction, if_pos hf] at h
    exact hrest c h
  · rw [printFraction, if_neg hf] at h
    obtain rfl : '.' = c := Option.some.inj h
    decide

/-- The text of a number starts with a sign or a digit. -/
theorem exists_printNumber (n : Number) :
    ∃ c cs, printNumber n = c :: cs ∧ (c = '-' ∨ c.isDigit) := by
  rw [printNumber]
  cases n.negative with
  | true => exact ⟨'-', _, rfl, .inl rfl⟩
  | false =>
    obtain ⟨c, cs, hc⟩ := List.exists_cons_of_ne_nil (Decimal.render_ne_nil n.whole)
    refine ⟨c, cs ++ printFraction n.fraction ++ printExponent n.exponent, by simp [hc], .inr ?_⟩
    exact Decimal.isDigit_of_mem_render (hc ▸ List.mem_cons_self)

theorem ne_of_first {c d : Char} (hc : c = '-' ∨ c.isDigit) (hd : ¬(d = '-' ∨ d.isDigit)) :
    c ≠ d := by
  intro h
  exact hd (h ▸ hc)

theorem readNumber_print (n : Number) (hrest : Ends rest) :
    readNumber (printNumber n ++ rest) = some (n, rest) := by
  obtain ⟨negative, whole, fraction, exponent⟩ := n
  have hexponent := readExponent_print exponent hrest
  have hfraction := readFraction_print fraction fun c hc => head?_printExponent exponent hrest hc
  have hwhole := readDigits_render whole fun c hc =>
    head?_printFraction fraction (fun c hc => (head?_printExponent exponent hrest hc).1) hc
  have hvalue : Decimal.parse? (Decimal.render whole) = some whole :=
    Decimal.parse?_eq_some_iff.mpr rfl
  cases negative with
  | true =>
    simp only [readNumber, printNumber, List.append_assoc, if_true, List.cons_append,
      List.nil_append, List.head?_cons, List.tail_cons, decide_true, hwhole, hvalue, hfraction,
      hexponent, bind, Option.bind_some, pure]
  | false =>
    have hunsigned : (Decimal.render whole ++
        (printFraction fraction ++ (printExponent exponent ++ rest))).head? ≠ some '-' := by
      intro h
      exact absurd (head?_render whole h) (by decide)
    simp only [readNumber, printNumber, List.append_assoc, Bool.false_eq_true, if_false,
      List.nil_append, hunsigned, decide_false, hwhole, hvalue, hfraction, hexponent, bind,
      Option.bind_some, pure]

end numbers

section values

variable {rest : List Char} {fuel : Nat}

theorem skipBlanks_cons {c : Char} (h : isBlank c = false) : skipBlanks (c :: rest) = c :: rest :=
  List.dropWhile_cons_of_neg (by simp [h])

theorem ends_cons {c : Char} (h : c = ',' ∨ c = ']' ∨ c = '\x7d') : Ends (c :: rest) := by
  intro d hd
  obtain rfl : c = d := Option.some.inj hd
  obtain rfl | rfl | rfl := h
  all_goals decide

theorem readWord_append (letters : List Char) (v : Value) :
    readWord letters v (letters ++ rest) = some (v, rest) := by
  rw [readWord, if_pos (by simp), List.drop_left]

theorem readValue_null : readValue (fuel + 1) (print .null ++ rest) = some (.null, rest) := by
  rw [show print .null = 'n' :: ['u', 'l', 'l'] by simp [print], List.cons_append,
    readValue.eq_3 _ _ _ _ (skipBlanks_cons (by decide))]
  simp only [Char.reduceEq, if_false, if_true, readWord_append]

theorem readValue_boolean (b : Bool) :
    readValue (fuel + 1) (print (.boolean b) ++ rest) = some (.boolean b, rest) := by
  cases b with
  | true =>
    rw [show print (.boolean true) = 't' :: ['r', 'u', 'e'] by simp [print], List.cons_append,
      readValue.eq_3 _ _ _ _ (skipBlanks_cons (by decide))]
    simp only [Char.reduceEq, if_false, if_true, readWord_append]
  | false =>
    rw [show print (.boolean false) = 'f' :: ['a', 'l', 's', 'e'] by simp [print], List.cons_append,
      readValue.eq_3 _ _ _ _ (skipBlanks_cons (by decide))]
    simp only [Char.reduceEq, if_false, if_true, readWord_append]

theorem readValue_number (n : Number) (hrest : Ends rest) :
    readValue (fuel + 1) (print (.number n) ++ rest) = some (.number n, rest) := by
  have hread := readNumber_print n hrest
  obtain ⟨c, cs, hn, hfirst⟩ := exists_printNumber n
  have hblank : isBlank c = false := by
    simp [isBlank, ne_of_first hfirst]
  rw [hn, List.cons_append] at hread
  rw [print, hn, List.cons_append, readValue.eq_3 _ _ _ _ (skipBlanks_cons hblank),
    if_neg (ne_of_first hfirst (by decide)), if_neg (ne_of_first hfirst (by decide)),
    if_neg (ne_of_first hfirst (by decide)), if_neg (ne_of_first hfirst (by decide)),
    if_neg (ne_of_first hfirst (by decide)), if_neg (ne_of_first hfirst (by decide)), hread]
  rfl

theorem readValue_string (units : List UInt16) :
    readValue (fuel + 1) (print (.string units) ++ rest) = some (.string units, rest) := by
  rw [print, printString, List.append_assoc, List.cons_append,
    readValue.eq_3 _ _ _ _ (skipBlanks_cons (by decide)), List.singleton_append,
    readUnits_printString]
  rfl

/-- The text of a value has a first character, which is not a blank and closes nothing. -/
theorem exists_print (v : Value) : ∃ c cs, print v = c :: cs ∧ isBlank c = false ∧ c ≠ ']' := by
  cases v with
  | null => exact ⟨'n', ['u', 'l', 'l'], by simp [print], by decide, by decide⟩
  | boolean b =>
    cases b with
    | true => exact ⟨'t', ['r', 'u', 'e'], by simp [print], by decide, by decide⟩
    | false => exact ⟨'f', ['a', 'l', 's', 'e'], by simp [print], by decide, by decide⟩
  | number n =>
    obtain ⟨c, cs, hc, hfirst⟩ := exists_printNumber n
    have hblank : isBlank c = false := by
      simp [isBlank, ne_of_first hfirst]
    exact ⟨c, cs, by rw [print, hc], hblank, ne_of_first hfirst (by decide)⟩
  | string units => exact ⟨'"', _, by rw [print, printString]; rfl, by decide, by decide⟩
  | array items => exact ⟨'[', _, by rw [print]; rfl, by decide, by decide⟩
  | object members => exact ⟨'\x7b', _, by rw [print]; rfl, by decide, by decide⟩

theorem length_print_pos (v : Value) : 0 < (print v).length := by
  obtain ⟨c, cs, hv, -⟩ := exists_print v
  rw [hv]
  exact Nat.succ_pos _

theorem readValue_array_nil :
    readValue (fuel + 1) ('[' :: ']' :: rest) = some (.array [], rest) := by
  rw [readValue.eq_3 _ _ _ _ (skipBlanks_cons (by decide)), if_pos rfl,
    skipBlanks_cons (by decide), List.head?_cons, if_pos rfl, List.tail_cons]

theorem readValue_object_nil :
    readValue (fuel + 1) ('\x7b' :: '\x7d' :: rest) = some (.object [], rest) := by
  rw [readValue.eq_3 _ _ _ _ (skipBlanks_cons (by decide)), if_neg (by decide), if_pos rfl,
    skipBlanks_cons (by decide), List.head?_cons, if_pos rfl, List.tail_cons]

theorem readValue_array (hopen : (skipBlanks rest).head? ≠ some ']') :
    readValue (fuel + 1) ('[' :: rest) =
      (readItems fuel rest).map fun (items, rest) => (.array items, rest) := by
  rw [readValue.eq_3 _ _ _ _ (skipBlanks_cons (by decide)), if_pos rfl, if_neg hopen]

theorem readValue_object (hopen : (skipBlanks rest).head? ≠ some '\x7d') :
    readValue (fuel + 1) ('\x7b' :: rest) =
      (readMembers fuel rest).map fun (members, rest) => (.object members, rest) := by
  rw [readValue.eq_3 _ _ _ _ (skipBlanks_cons (by decide)), if_neg (by decide), if_pos rfl,
    if_neg hopen]

section steps

variable {v : Value} {c : Char} {cs : List Char} (hc : isBlank c = false)
  (h : readValue fuel cs = some (v, c :: rest))
include hc h

/-- After an item its mark decides whether more follow. -/
theorem readItems_step : readItems (fuel + 1) cs =
    if c = ',' then (readItems fuel rest).map fun (items, rest) => (v :: items, rest)
    else if c = ']' then some ([v], rest) else none := by
  rw [readItems, h]
  simp only [bind, Option.bind_some, skipBlanks_cons hc, pure]
  cases readItems fuel rest <;> rfl

theorem readMembers_step (key : List UInt16) :
    readMembers (fuel + 1) (printString key ++ ':' :: cs) =
      if c = ',' then (readMembers fuel rest).map fun (members, rest) => ((key, v) :: members, rest)
      else if c = '\x7d' then some ([(key, v)], rest) else none := by
  have hcolon : isBlank ':' = false := by decide
  have hkey : skipBlanks (printString key ++ ':' :: cs) =
      '"' :: (key.flatMap printUnit ++ '"' :: ':' :: cs) := by
    rw [printString, List.append_assoc, List.cons_append, List.singleton_append]
    exact skipBlanks_cons (by decide)
  rw [readMembers, hkey]
  simp only [List.head?_cons, List.tail_cons, ne_eq, not_true_eq_false, if_false, bind,
    readUnits_printString, Option.bind_some, skipBlanks_cons hcolon, h, skipBlanks_cons hc, pure]
  cases readMembers fuel rest <;> rfl

end steps

theorem printItems_cons_cons (v w : Value) (items : List Value) :
    printItems (v :: w :: items) = print v ++ ',' :: printItems (w :: items) := by
  rw [printItems]
  nofun

theorem printMembers_cons_cons (key : List UInt16) (v : Value) (w : Member)
    (members : List Member) :
    printMembers ((key, v) :: w :: members) =
      printString key ++ ':' :: (print v ++ ',' :: printMembers (w :: members)) := by
  rw [printMembers]
  nofun

theorem exists_printItems {items : List Value} (hne : items ≠ []) :
    ∃ c cs, printItems items = c :: cs ∧ isBlank c = false ∧ c ≠ ']' := by
  cases items with
  | nil => exact absurd rfl hne
  | cons v items =>
    obtain ⟨c, cs, hv, hc⟩ := exists_print v
    cases items with
    | nil => exact ⟨c, cs, by rw [printItems, hv], hc⟩
    | cons w items =>
      refine ⟨c, cs ++ ',' :: printItems (w :: items), ?_, hc⟩
      rw [printItems_cons_cons, hv, List.cons_append]

theorem exists_printMembers {members : List Member} (hne : members ≠ []) :
    ∃ cs, printMembers members = '"' :: cs := by
  cases members with
  | nil => exact absurd rfl hne
  | cons member members =>
    obtain ⟨key, v⟩ := member
    cases members with
    | nil => exact ⟨_, by rw [printMembers, printString]; rfl⟩
    | cons w members => exact ⟨_, by rw [printMembers_cons_cons, printString]; rfl⟩

mutual

/-- The text of a value reads back, whatever stands after it. -/
theorem readValue_print (v : Value) {fuel : Nat} {rest : List Char}
    (hfuel : 2 * (print v).length ≤ fuel + 1) (hrest : Ends rest) :
    readValue fuel (print v ++ rest) = some (v, rest) := by
  obtain ⟨fuel, rfl⟩ : ∃ n, fuel = n + 1 := by
    have := length_print_pos v
    exact ⟨fuel - 1, by omega⟩
  cases v with
  | null => exact readValue_null
  | boolean b => exact readValue_boolean b
  | number n => exact readValue_number n hrest
  | string units => exact readValue_string units
  | array items =>
    by_cases hne : items = []
    · rw [hne, print]
      exact readValue_array_nil
    · rw [print, List.length_append, List.length_cons, List.length_singleton] at hfuel
      have hread : readItems fuel (printItems items ++ ']' :: rest) = some (items, rest) :=
        readItems_print items hne (by omega)
      obtain ⟨c, cs, hc, hblank, hclose⟩ := exists_printItems hne
      rw [print, List.append_assoc, List.cons_append, List.singleton_append, readValue_array, hread]
      · rfl
      · rw [hc, List.cons_append, skipBlanks_cons hblank]
        exact fun h => hclose (Option.some.inj h)
  | object members =>
    by_cases hne : members = []
    · rw [hne, print]
      exact readValue_object_nil
    · rw [print, List.length_append, List.length_cons, List.length_singleton] at hfuel
      have hread : readMembers fuel (printMembers members ++ '\x7d' :: rest) =
          some (members, rest) := readMembers_print members hne (by omega)
      obtain ⟨cs, hc⟩ := exists_printMembers hne
      rw [print, List.append_assoc, List.cons_append, List.singleton_append, readValue_object,
        hread]
      · rfl
      · rw [hc, List.cons_append, skipBlanks_cons (by decide)]
        simp

theorem readItems_print (items : List Value) (hne : items ≠ []) {fuel : Nat} {rest : List Char}
    (hfuel : 2 * (printItems items).length ≤ fuel) :
    readItems fuel (printItems items ++ ']' :: rest) = some (items, rest) := by
  cases items with
  | nil => exact absurd rfl hne
  | cons v items =>
    have hpos := length_print_pos v
    cases items with
    | nil =>
      rw [printItems] at hfuel ⊢
      obtain ⟨fuel, rfl⟩ : ∃ n, fuel = n + 1 := ⟨fuel - 1, by omega⟩
      rw [readItems_step (by decide) (readValue_print v (by omega) (ends_cons (.inr (.inl rfl))))]
      rfl
    | cons w items =>
      rw [printItems_cons_cons] at hfuel ⊢
      rw [List.length_append, List.length_cons] at hfuel
      obtain ⟨fuel, rfl⟩ : ∃ n, fuel = n + 1 := ⟨fuel - 1, by omega⟩
      have hitems : readItems fuel (printItems (w :: items) ++ ']' :: rest) =
          some (w :: items, rest) := readItems_print (w :: items) (List.cons_ne_nil _ _) (by omega)
      rw [List.append_assoc, List.cons_append,
        readItems_step (by decide) (readValue_print v (by omega) (ends_cons (.inl rfl))), hitems]
      rfl

theorem readMembers_print (members : List Member) (hne : members ≠ []) {fuel : Nat}
    {rest : List Char} (hfuel : 2 * (printMembers members).length ≤ fuel) :
    readMembers fuel (printMembers members ++ '\x7d' :: rest) = some (members, rest) := by
  cases members with
  | nil => exact absurd rfl hne
  | cons member members =>
    obtain ⟨key, v⟩ := member
    cases members with
    | nil =>
      rw [printMembers] at hfuel ⊢
      rw [List.length_append, List.length_cons] at hfuel
      obtain ⟨fuel, rfl⟩ : ∃ n, fuel = n + 1 := ⟨fuel - 1, by omega⟩
      rw [List.append_assoc, List.cons_append, readMembers_step (by decide)
        (readValue_print v (by omega) (ends_cons (.inr (.inr rfl))))]
      rfl
    | cons w members =>
      rw [printMembers_cons_cons] at hfuel ⊢
      simp only [List.length_append, List.length_cons] at hfuel
      obtain ⟨fuel, rfl⟩ : ∃ n, fuel = n + 1 := ⟨fuel - 1, by omega⟩
      have hmembers : readMembers fuel (printMembers (w :: members) ++ '\x7d' :: rest) =
          some (w :: members, rest) :=
        readMembers_print (w :: members) (List.cons_ne_nil _ _) (by omega)
      rw [List.append_assoc, List.cons_append, List.append_assoc, List.cons_append,
        readMembers_step (by decide) (readValue_print v (by omega) (ends_cons (.inl rfl))), hmembers]
      rfl

end

theorem parse?_print (v : Value) : parse? (String.ofList (print v)) = some v := by
  have hread : readValue (2 * (print v).length + 2) (print v ++ []) = some (v, []) :=
    readValue_print v (by omega) nofun
  rw [List.append_nil] at hread
  rw [parse?, String.length_ofList, String.toList_ofList, hread]
  rfl

end values

end Argon2Native.Json
