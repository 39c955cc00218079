import Argon2Native.Proofs.Overrides
import Mathlib.Algebra.Group.Nat.Defs
/-!
The ceiling from the environment. The variable for it spells a number with plain digits, leading
zeros allowed, an optional plus sign before them and white space around. A number in range becomes
the ceiling; one that is out of range but has 64 bits is reported as such, and anything else as no
number at all, in the spelling of the variable.

Main statement: `loadEnvironment_ceiling`.
-/
namespace Argon2Native

namespace Blank

variable {front core back cs rest : List Char}

theorem exists_trim (cs : List Char) : ∃ front back : List Char,
    cs = front ++ trim cs ++ back ∧ front.all isBlank ∧ back.all isBlank := by
  have hback := List.takeWhile_append_dropWhile (p := isBlank) (l := (cs.dropWhile isBlank).reverse)
  refine ⟨cs.takeWhile isBlank, ((cs.dropWhile isBlank).reverse.takeWhile isBlank).reverse, ?_,
    List.all_takeWhile, by rw [List.all_reverse]; exact List.all_takeWhile⟩
  rw [trim, List.append_assoc, ← List.reverse_append, hback, List.reverse_reverse,
    List.takeWhile_append_dropWhile]

theorem dropWhile_append_of_all (h : cs.all isBlank) :
    (cs ++ rest).dropWhile isBlank = rest.dropWhile isBlank :=
  List.dropWhile_append_of_pos (by simpa using h)

theorem dropWhile_append_of_none (hne : cs ≠ []) (h : ∀ c ∈ cs, ¬isBlank c) :
    (cs ++ rest).dropWhile isBlank = cs ++ rest := by
  obtain ⟨c, cs, rfl⟩ := List.exists_cons_of_ne_nil hne
  exact List.dropWhile_cons_of_neg (h c (List.mem_cons_self ..))

theorem trim_append (hfront : front.all isBlank) (hback : back.all isBlank) (hne : core ≠ [])
    (hcore : ∀ c ∈ core, ¬isBlank c) : trim (front ++ core ++ back) = core := by
  have hend : (core.reverse ++ []).dropWhile isBlank = core.reverse ++ [] :=
    dropWhile_append_of_none (by simpa using hne) (by simpa using hcore)
  rw [List.append_nil] at hend
  rw [trim, List.append_assoc, dropWhile_append_of_all hfront,
    dropWhile_append_of_none hne hcore, List.reverse_append,
    dropWhile_append_of_all (by rwa [List.all_reverse]), hend, List.reverse_reverse]

end Blank

namespace Decimal

inductive Denotes : List Char → Nat → Prop where
  | digit {d : Nat} (hd : d < 10) : Denotes [d.digitChar] d
  | append {digits : List Char} {n d : Nat} (h : Denotes digits n) (hd : d < 10) :
    Denotes (digits ++ [d.digitChar]) (10 * n + d)

theorem isDigit_digitChar {d : Nat} (hd : d < 10) :
    d.digitChar.isDigit ∧ d.digitChar.toNat - '0'.toNat = d := by
  refine ⟨isDigit_of_mem_render (n := d) (by simp [render_of_lt hd]), ?_⟩
  rw [Nat.toNat_digitChar_of_lt_ten hd]
  exact Nat.add_sub_cancel_left ..

theorem denotes_iff {digits : List Char} {n : Nat} :
    Denotes digits n ↔ digits ≠ [] ∧ digits.all Char.isDigit ∧ value digits = n := by
  constructor
  · intro h
    induction h with
    | @digit d hd =>
      obtain ⟨hc, hv⟩ := isDigit_digitChar hd
      exact ⟨List.cons_ne_nil _ _, by simpa using hc, by simpa [value] using hv⟩
    | @append digits n d h hd ih =>
      obtain ⟨hc, hv⟩ := isDigit_digitChar hd
      obtain ⟨-, hall, rfl⟩ := ih
      exact ⟨by simp, by simp [List.all_append, hall, hc], by rw [value_append, hv]⟩
  · rintro ⟨hne, hall, rfl⟩
    induction digits using List.reverseRecOn with
    | nil => exact absurd rfl hne
    | append_singleton digits c ih =>
      rw [List.all_append, Bool.and_eq_true, List.all_cons, Bool.and_eq_true] at hall
      obtain ⟨hd, hc⟩ := digitChar_of_isDigit hall.2.1
      rw [value_append, ← congrArg (fun c => digits ++ [c]) hc]
      -- only what stands before the last digit can be empty
      by_cases hnil : digits = []
      · subst hnil
        simpa [value, hc] using Denotes.digit hd
      · simpa [hc] using (ih hnil hall.1).append hd

end Decimal

namespace Config

open Blank Decimal

/-- A number as it may stand in a variable: digits with an optional plus sign and white space
around. -/
inductive Spells : List Char → Nat → Prop where
  | mk {front sign digits back : List Char} {n : Nat} (hfront : front.all isBlank)
      (hsign : sign = [] ∨ sign = ['+']) (hdigits : Denotes digits n)
      (hback : back.all isBlank) : Spells (front ++ (sign ++ digits) ++ back) n

def unsigned (cs : List Char) : List Char :=
  if (trim cs).head? = some '+' then (trim cs).tail else trim cs

/-- No digit is taken for white space or for a sign. -/
theorem not_isBlank_of_denotes {digits : List Char} {n : Nat} (h : Denotes digits n) :
    ∀ c ∈ digits, ¬isBlank c ∧ c ≠ '+' := by
  intro c hc
  have hdigit := List.all_eq_true.mp (denotes_iff.mp h).2.1 c hc
  have hb : 48 ≤ c.toNat ∧ c.toNat ≤ 57 := by
    simpa [Char.isDigit, UInt32.le_iff_toNat_le] using hdigit
  constructor
  · intro hblank
    simp only [isBlank, Bool.or_eq_true, Bool.and_eq_true, decide_eq_true_eq, beq_iff_eq] at hblank
    omega
  · rintro rfl
    exact absurd hb (by decide)

theorem trim_spelled {front sign digits back : List Char} {n : Nat} (hfront : front.all isBlank)
    (hsign : sign = [] ∨ sign = ['+']) (hdigits : Denotes digits n) (hback : back.all isBlank) :
    trim (front ++ (sign ++ digits) ++ back) = sign ++ digits := by
  have hne := (denotes_iff.mp hdigits).1
  refine trim_append hfront hback (List.append_ne_nil_of_right_ne_nil _ hne) ?_
  intro c hc
  rcases List.mem_append.mp hc with hc | hc
  · rcases hsign with rfl | rfl
    · cases hc
    · rw [List.mem_singleton.mp hc]
      decide
  · exact (not_isBlank_of_denotes hdigits c hc).1

theorem spells_iff {cs : List Char} {n : Nat} : Spells cs n ↔ Denotes (unsigned cs) n := by
  constructor
  · rintro ⟨hfront, hsign, hdigits, hback⟩
    rw [unsigned, trim_spelled hfront hsign hdigits hback]
    rcases hsign with rfl | rfl
    · rwa [List.nil_append, if_neg]
      exact fun h => (not_isBlank_of_denotes hdigits _ (List.mem_of_mem_head? h)).2 rfl
    · exact hdigits
  · intro h
    obtain ⟨front, back, hcs, hfront, hback⟩ := exists_trim cs
    rw [unsigned] at h
    split at h
    · rename_i hplus
      obtain ⟨digits, hd⟩ := List.head?_eq_some_iff.mp hplus
      rw [hd] at h hcs
      rw [hcs]
      exact @Spells.mk front ['+'] digits back n hfront (.inr rfl) h hback
    · rw [hcs]
      exact @Spells.mk front [] (trim cs) back n hfront (.inl rfl) h hback

theorem byteCount?_eq (s : String) : byteCount? s =
    if unsigned s.toList ≠ [] ∧ (unsigned s.toList).all Char.isDigit ∧
      value (unsigned s.toList) < UInt64.size then some (value (unsigned s.toList)) else none := rfl

theorem byteCount?_eq_some_iff {s : String} {n : Nat} :
    byteCount? s = some n ↔ Spells s.toList n ∧ n < 2 ^ 64 := by
  rw [spells_iff, denotes_iff, byteCount?_eq, Option.ite_none_right_eq_some, Option.some.injEq]
  constructor
  · rintro ⟨⟨hne, hall, hlt⟩, rfl⟩
    exact ⟨⟨hne, hall, rfl⟩, hlt⟩
  · rintro ⟨⟨hne, hall, rfl⟩, hlt⟩
    exact ⟨⟨hne, hall, hlt⟩, rfl⟩

theorem message_maxOutputLength (fault : Fault) :
    (Failure.invalid "ARGON2_MAX_OUTPUT_LEN" fault).message =
      "Invalid value for 'ARGON2_MAX_OUTPUT_LEN': " ++ fault.message := by
  have hhead : "Invalid value for '" ++ "ARGON2_MAX_OUTPUT_LEN" ++ "': " =
      "Invalid value for 'ARGON2_MAX_OUTPUT_LEN': " := by decide +kernel
  exact congrArg (· ++ fault.message) hhead

theorem message_outsideRange (n : Nat) : (Fault.outsideRange 4 (2 ^ 32 - 1) n).message =
    "must be between 4 and 4294967295, got " ++ toString n := by
  have hrange : "must be between " ++ toString 4 ++ " and " ++ toString (2 ^ 32 - 1) ++ ", got " =
      "must be between 4 and 4294967295, got " := by decide +kernel
  exact congrArg (· ++ toString n) hrange

namespace Loader

def ceilingLayer (dir : Option String) (n : Nat) : Loaded where
  settings := {
    library := dir.map fun dir => { dir := some (Path.ofText dir) }
    limits := some { maxOutputLength := some n } }
  source := none

inductive CeilingOutcome (dir : Option String) (text : String) : Except Failure Loaded → Prop where
  | inRange {n : Nat} (hn : Spells text.toList n) (hleast : 4 ≤ n) (hmost : n ≤ 2 ^ 32 - 1) :
    CeilingOutcome dir text (.ok (ceilingLayer dir n))
  | outsideRange {n : Nat} (hn : Spells text.toList n) (hlt : n < 2 ^ 64)
      (hrange : n < 4 ∨ 2 ^ 32 - 1 < n) :
    CeilingOutcome dir text
      (.error (.invalid "ARGON2_MAX_OUTPUT_LEN" (.outsideRange 4 (2 ^ 32 - 1) n)))
  | noByteCount (hnone : ∀ n, Spells text.toList n → 2 ^ 64 ≤ n) :
    CeilingOutcome dir text (.error (.invalid "ARGON2_MAX_OUTPUT_LEN" (.noByteCount text)))

variable {host : Host} {dir : Option String} {text : String} {r : Except Failure Loaded}

theorem ceilingOutcome_read (dir : Option String) (text : String) :
    CeilingOutcome dir text ((readMaxOutputLength text).map (ceilingLayer dir)) := by
  rw [readMaxOutputLength]
  cases hb : byteCount? text with
  | none =>
    refine .noByteCount fun n hn => ?_
    by_contra hlt
    rw [byteCount?_eq_some_iff.mpr ⟨hn, Nat.not_le.mp hlt⟩] at hb
    cases hb
  | some n =>
    obtain ⟨hn, hlt⟩ := byteCount?_eq_some_iff.mp hb
    by_cases hrange : leastOutputLength ≤ n ∧ n ≤ mostOutputLength
    · simp only [ceilingFault?, if_pos hrange]
      exact .inRange hn hrange.1 hrange.2
    · simp only [ceilingFault?, if_neg hrange]
      refine .outsideRange hn hlt ?_
      change ¬(4 ≤ n ∧ n ≤ 2 ^ 32 - 1) at hrange
      omega

theorem CeilingOutcome.eq_read (h : CeilingOutcome dir text r) :
    (readMaxOutputLength text).map (ceilingLayer dir) = r := by
  cases h with
  | inRange hn hleast hmost =>
    have hb := byteCount?_eq_some_iff.mpr ⟨hn, by omega⟩
    rw [readMaxOutputLength_eq_ok_iff.mpr ⟨hb, hleast, hmost⟩]
    rfl
  | @outsideRange n hn hlt hrange =>
    have hout : ¬(leastOutputLength ≤ n ∧ n ≤ mostOutputLength) := by
      change ¬(4 ≤ n ∧ n ≤ 2 ^ 32 - 1)
      omega
    rw [readMaxOutputLength, byteCount?_eq_some_iff.mpr ⟨hn, hlt⟩]
    simp only [ceilingFault?, if_neg hout]
    rfl
  | noByteCount hnone =>
    have hb : byteCount? text = none := by
      refine Option.eq_none_iff_forall_ne_some.mpr fun n hn => ?_
      obtain ⟨hn, hlt⟩ := byteCount?_eq_some_iff.mp hn
      have := hnone n hn
      omega
    rw [readMaxOutputLength, hb]
    rfl

theorem loadEnvironment_of_maxOutputLength
    (ht : host.environment.text? maxOutputLengthVariable = some text)
    (hn : host.environment.text? variantVariable = none) :
    loadEnvironment host = (readMaxOutputLength text).map
      (ceilingLayer (host.environment.text? libraryDirVariable)) := by
  rw [loadEnvironment_eq, ht, hn, Option.mapM_some]
  cases readMaxOutputLength text <;> rfl

/-- Where the variable for the ceiling holds a text and that for the variant is unset, loading the
environment succeeds exactly for the spellings of numbers in range, and the number is the ceiling.
A failure names the variable; it gives the number where it is merely out of range and has 64 bits,
and the text as it stands in all other cases. -/
theorem loadEnvironment_ceiling (host : Host) (text : String)
    (htext : host.environment.value? maxOutputLengthVariable = some (Bytes.ofText text))
    (hne : text ≠ "") (hvariant : host.environment.value? variantVariable = none) :
    (∀ r, loadEnvironment host = r ↔
      CeilingOutcome (host.environment.text? libraryDirVariable) text r) ∧
    (∀ n, (∃ loaded, loadEnvironment host = .ok loaded ∧
        loaded.settings.maxOutputLength? = some n) ↔
      Spells text.toList n ∧ 4 ≤ n ∧ n ≤ 2 ^ 32 - 1) ∧
    ∀ f, loadEnvironment host = .error f →
      (∀ n, Spells text.toList n → n < 2 ^ 64 →
        f.message = "Invalid value for 'ARGON2_MAX_OUTPUT_LEN': " ++
          ("must be between 4 and 4294967295, got " ++ toString n)) ∧
      ((∀ n, Spells text.toList n → 2 ^ 64 ≤ n) →
        f.message = "Invalid value for 'ARGON2_MAX_OUTPUT_LEN': " ++
          ("'" ++ text ++ "' is not a byte count")) := by
  have ht := Environment.text?_of_value? htext hne
  have hn := Environment.text?_of_unset hvariant
  have houtcome (r : Except Failure Loaded) : loadEnvironment host = r ↔
      CeilingOutcome (host.environment.text? libraryDirVariable) text r := by
    rw [loadEnvironment_of_maxOutputLength ht hn]
    exact ⟨fun h => h ▸ ceilingOutcome_read _ text, CeilingOutcome.eq_read⟩
  refine ⟨houtcome, ?_, ?_⟩
  · intro n
    constructor
    · rintro ⟨loaded, hl, hm⟩
      cases (houtcome _).mp hl with
      | inRange hn hleast hmost =>
        obtain rfl := Option.some.inj hm
        exact ⟨hn, hleast, hmost⟩
    · rintro ⟨hn, hleast, hmost⟩
      exact ⟨_, (houtcome _).mpr (.inRange hn hleast hmost), rfl⟩
  · intro f hf
    constructor
    · intro n hn hlt
      have hrange : n < 4 ∨ 2 ^ 32 - 1 < n := by
        by_contra hin
        have hl := (houtcome _).mpr (.inRange hn (by omega) (by omega))
        rw [hf] at hl
        cases hl
      have he := (houtcome _).mpr (.outsideRange hn hlt hrange)
      rw [hf, Except.error.injEq] at he
      rw [he, message_maxOutputLength, message_outsideRange]
    · intro hnone
      have he := (houtcome _).mpr (.noByteCount hnone)
      rw [hf, Except.error.injEq] at he
      rw [he]
      exact message_maxOutputLength (.noByteCount text)

/-- A hard space in front, a sign, zeros, and a line break at the end. -/
theorem loadEnvironment_ceiling_spelled :
    let text := "\u00A0+0064\n"
    let host : Host := {
      tree := FileTree.empty
      environment := Environment.empty.set maxOutputLengthVariable (Bytes.ofText text)
      workingDirectory := []
      accountHome := none
      executableDirectory := none }
    host.environment.value? maxOutputLengthVariable = some (Bytes.ofText text) ∧ text ≠ "" ∧
      host.environment.value? variantVariable = none ∧
      ∃ loaded, loadEnvironment host = .ok loaded ∧ loaded.settings.maxOutputLength? = some 64 := by
  intro text host
  have hne : text ≠ "" := by decide
  have hspells : Spells text.toList 64 := spells_iff.mpr (denotes_iff.mpr (by decide +kernel))
  obtain ⟨-, hceiling, -⟩ := loadEnvironment_ceiling host text rfl hne rfl
  exact ⟨rfl, hne, rfl, (hceiling 64).mpr ⟨hspells, by decide, by decide⟩⟩

end Loader
end Config
end Argon2Native
