import Argon2Native.Parameters.Json
import Argon2Native.Proofs.JsonText
import Mathlib.Data.List.Nodup
import Mathlib.Logic.Function.Basic
/-!
Parameters as the fields of an object. What an object gives lies over the standard parameters,
whatever the order of its fields and whatever else stands among them.

Main statement: `fields_overlaid`.
-/
namespace Argon2Native.Parameters

open Json (Value Member)

inductive Cost where
  | time
  | memory
  | parallelism
  deriving DecidableEq

inductive Field where
  | cost (c : Cost)
  | outputLength
  | variant
  deriving DecidableEq

namespace Field

def all : List Field := [.cost .time, .cost .memory, .cost .parallelism, .outputLength, .variant]

def name : Field → String
  | .cost .time => "time_cost"
  | .cost .memory => "memory_cost"
  | .cost .parallelism => "parallelism"
  | .outputLength => "output_len"
  | .variant => "variant"

def Data : Field → Type
  | .cost _ => UInt32
  | .outputLength => Nat
  | .variant => Variant

def Writes : (x : Field) → x.Data → Value → Prop
  | .cost _, (n : UInt32), v => v = naturalJson n.toNat
  | .outputLength, (n : Nat), v => n < UInt64.size ∧ v = naturalJson n
  | .variant, (a : Variant), v =>
    ∃ units, Utf16.text? units = some a.name ∧ (v = .string units ∨ v = .object [(units, .null)])

def json : (x : Field) → x.Data → Value
  | .cost _, (n : UInt32) => naturalJson n.toNat
  | .outputLength, (n : Nat) => naturalJson n
  | .variant, (a : Variant) => .string (Utf16.ofText a.name)

def read : (x : Field) → Value → Option x.Data
  | .cost _, v => word? v
  | .outputLength, v => natural? UInt64.size v
  | .variant, v => variant? v

end Field

def get (p : Parameters) : (x : Field) → x.Data
  | .cost .time => p.timeCost
  | .cost .memory => p.memoryCost
  | .cost .parallelism => p.parallelism
  | .outputLength => p.outputLength
  | .variant => p.variant

def ofGet (g : (x : Field) → x.Data) : Parameters where
  timeCost := g (.cost .time)
  memoryCost := g (.cost .memory)
  parallelism := g (.cost .parallelism)
  outputLength := g .outputLength
  variant := g .variant

def member (p : Parameters) (x : Field) : Member := (Utf16.ofText x.name, x.json (p.get x))

def overlay (given : List Field) (p : Parameters) : Parameters :=
  ofGet fun x => if x ∈ given then p.get x else standard.get x

/-- Members that give some fields of the parameters, each once, and any value under other names. -/
inductive Gives (p : Parameters) : List Member → List Field → Prop where
  | nil : Gives p [] []
  | field {x : Field} {key : List UInt16} {v : Value} {members : List Member} {given : List Field}
    (hkey : Utf16.text? key = some x.name) (hv : x.Writes (p.get x) v) (hx : x ∉ given)
    (h : Gives p members given) : Gives p ((key, v) :: members) (x :: given)
  | unknown {name : String} {key : List UInt16} {v : Value} {members : List Member}
    {given : List Field} (hkey : Utf16.text? key = some name) (hname : name ∉ fieldNames)
    (h : Gives p members given) : Gives p ((key, v) :: members) given

section fields

variable {x y : Field} {p q : Parameters}

theorem ofGet_get (p : Parameters) : ofGet p.get = p := rfl

@[simp] theorem get_ofGet (g : (x : Field) → x.Data) (x : Field) : (ofGet g).get x = g x := by
  obtain (_ | _ | _) | _ | _ := x
  all_goals rfl

theorem eq_of_get (h : ∀ x, p.get x = q.get x) : p = q := by
  rw [← ofGet_get p, ← ofGet_get q]
  exact congrArg ofGet (funext h)

theorem Field.mem_all (x : Field) : x ∈ Field.all := by
  obtain (_ | _ | _) | _ | _ := x
  all_goals decide

theorem fieldNames_eq : fieldNames = Field.all.map Field.name := rfl

theorem mem_fieldNames_iff {name : String} : name ∈ fieldNames ↔ ∃ x : Field, name = x.name := by
  simp [fieldNames_eq, Field.mem_all, eq_comm]

theorem Field.name_inj (h : x.name = y.name) : x = y := by
  have hnames : ∀ x ∈ all, ∀ y ∈ all, x.name = y.name → x = y := by decide
  exact hnames x (mem_all x) y (mem_all y) h

end fields

section values

theorem natural?_eq_some_iff {bound n : Nat} {v : Value} :
    natural? bound v = some n ↔ n < bound ∧ v = naturalJson n := by
  cases v with
  | number m =>
    obtain ⟨negative, whole, fraction, exponent⟩ := m
    rw [natural?, Option.filter_eq_some_iff, Json.Number.natural?, Option.ite_none_right_eq_some]
    simp only [naturalJson, Value.number.injEq, Json.Number.mk.injEq, decide_eq_true_eq,
      Option.some.injEq]
    tauto
  | _ => simp [natural?, naturalJson]

theorem word?_eq_some_iff {n : UInt32} {v : Value} :
    word? v = some n ↔ v = naturalJson n.toNat := by
  rw [word?, Option.map_eq_some_iff]
  simp only [natural?_eq_some_iff]
  constructor
  · intro h
    obtain ⟨m, ⟨hm, hv⟩, hn⟩ := h
    rw [hv, ← hn, Nat.toUInt32, UInt32.toNat_ofNat_of_lt' hm]
  · intro h
    exact ⟨n.toNat, ⟨n.toNat_lt, h⟩, UInt32.ofNat_toNat⟩

theorem variant?_eq_some_iff {a : Variant} {v : Value} :
    variant? v = some a ↔ Field.variant.Writes a v := by
  rw [variant?.eq_def, Field.Writes]
  split
  · simp [Option.bind_eq_some_iff, Variant.named?_eq_some_iff]
  · simp [Option.bind_eq_some_iff, Variant.named?_eq_some_iff]
  · next hstring hobject =>
    constructor
    · exact nofun
    · intro h
      obtain ⟨units, -, rfl | rfl⟩ := h
      · exact absurd rfl (hstring units)
      · exact absurd rfl (hobject units)

theorem Field.read_eq_some_iff {x : Field} {a : x.Data} {v : Value} :
    x.read v = some a ↔ x.Writes a v := by
  cases x with
  | cost c => exact word?_eq_some_iff
  | outputLength => exact natural?_eq_some_iff
  | variant => exact variant?_eq_some_iff

end values

theorem once_eq_some_iff {α : Type} {slot value : Option α} {s : Option α} :
    once slot value = some s ↔ slot = none ∧ ∃ a, value = some a ∧ s = some a := by
  cases slot with
  | none => simp [once, eq_comm]
  | some a => simp [once]

namespace Found

def slot (f : Found) : (x : Field) → Option x.Data
  | .cost .time => f.timeCost
  | .cost .memory => f.memoryCost
  | .cost .parallelism => f.parallelism
  | .outputLength => f.outputLength
  | .variant => f.variant

def ofSlots (s : (x : Field) → Option x.Data) : Found where
  timeCost := s (.cost .time)
  memoryCost := s (.cost .memory)
  parallelism := s (.cost .parallelism)
  outputLength := s .outputLength
  variant := s .variant

variable {f g : Found} {x y : Field} {key : List UInt16} {v : Value}

@[simp] theorem slot_ofSlots (s : (x : Field) → Option x.Data) (x : Field) :
    (ofSlots s).slot x = s x := by
  obtain (_ | _ | _) | _ | _ := x
  all_goals rfl

theorem get_parameters (f : Found) (x : Field) :
    f.parameters.get x = (f.slot x).getD (standard.get x) := by
  obtain (_ | _ | _) | _ | _ := x
  all_goals rfl

def fill (f : Found) (x : Field) (s : Option x.Data) : Found :=
  ofSlots (Function.update f.slot x s)

theorem slot_empty (x : Field) : ({} : Found).slot x = none := by
  obtain (_ | _ | _) | _ | _ := x
  all_goals rfl

@[simp] theorem slot_fill (f : Found) (x : Field) (s : Option x.Data) :
    (f.fill x s).slot x = s := by
  rw [fill, slot_ofSlots, Function.update_self]

theorem slot_fill_of_ne (hne : y ≠ x) {s : Option x.Data} : (f.fill x s).slot y = f.slot y := by
  rw [fill, slot_ofSlots, Function.update_of_ne hne]

theorem add_field (hkey : Utf16.text? key = some x.name) :
    f.add (key, v) = (once (f.slot x) (x.read v)).map (f.fill x) := by
  obtain (_ | _ | _) | _ | _ := x
  all_goals
    rw [add, hkey, Option.map_eq_bind]
    rfl

theorem add_unknown {name : String} (hkey : Utf16.text? key = some name)
    (hname : name ∉ fieldNames) : f.add (key, v) = some f := by
  rw [add, hkey]
  simp only [bind, Option.bind_some]
  split
  case h_6 => rfl
  all_goals exact absurd (by decide) hname

/-- A member fills a field that is free with what it writes there, or it is of no field. -/
theorem add_eq_some_iff : f.add (key, v) = some g ↔
    (∃ x a, Utf16.text? key = some x.name ∧ f.slot x = none ∧ x.Writes a v ∧
      g = f.fill x (some a)) ∨
    (∃ name, Utf16.text? key = some name ∧ name ∉ fieldNames ∧ g = f) := by
  constructor
  · intro h
    cases hkey : Utf16.text? key with
    | none =>
      rw [add, hkey] at h
      cases h
    | some name =>
      by_cases hname : name ∈ fieldNames
      · obtain ⟨x, rfl⟩ := mem_fieldNames_iff.mp hname
        rw [add_field hkey, Option.map_eq_some_iff] at h
        obtain ⟨s, hs, rfl⟩ := h
        obtain ⟨hfree, a, ha, rfl⟩ := once_eq_some_iff.mp hs
        exact .inl ⟨x, a, rfl, hfree, Field.read_eq_some_iff.mp ha, rfl⟩
      · rw [add_unknown hkey hname] at h
        exact .inr ⟨name, rfl, hname, (Option.some.inj h).symm⟩
  · intro h
    obtain ⟨x, a, hkey, hfree, ha, rfl⟩ | ⟨name, hkey, hname, rfl⟩ := h
    · have hs : once (f.slot x) (x.read v) = some (some a) :=
        once_eq_some_iff.mpr ⟨hfree, a, Field.read_eq_some_iff.mpr ha, rfl⟩
      rw [add_field hkey, hs, Option.map_some]
    · exact add_unknown hkey hname

structure Filled (p : Parameters) (given : List Field) (f g : Found) : Prop where
  free : ∀ x ∈ given, f.slot x = none
  slot : ∀ x, g.slot x = if x ∈ given then some (p.get x) else f.slot x

variable {p : Parameters} {given : List Field}

theorem filled_nil (p : Parameters) (f : Found) : Filled p [] f f :=
  ⟨nofun, fun _ => (if_neg List.not_mem_nil).symm⟩

theorem Filled.cons (hfree : f.slot x = none) (hx : x ∉ given)
    (h : Filled p given (f.fill x (some (p.get x))) g) : Filled p (x :: given) f g := by
  constructor
  · intro y hy
    obtain rfl | hy := List.mem_cons.mp hy
    · exact hfree
    · have hne : y ≠ x := fun heq => hx (heq ▸ hy)
      rw [← slot_fill_of_ne hne]
      exact h.free y hy
  · intro y
    rw [h.slot]
    by_cases hne : y = x
    · subst hne
      rw [if_neg hx, if_pos List.mem_cons_self, slot_fill]
    · rw [slot_fill_of_ne hne]
      simp [hne]

/-- A field that is filled is not given again. -/
theorem Filled.not_mem {a : x.Data} (h : Filled p given (f.fill x (some a)) g) : x ∉ given := by
  intro hx
  have hfree := h.free x hx
  rw [slot_fill] at hfree
  cases hfree

theorem Filled.slot_eq {a : x.Data} (h : Filled p given (f.fill x (some a)) g) :
    g.slot x = some a := by
  rw [h.slot, if_neg h.not_mem, slot_fill]

end Found

section members

variable {p q : Parameters} {members : List Member} {given : List Field} {f g : Found}

theorem Gives.exists_filled (h : Gives p members given) (hfree : ∀ x ∈ given, f.slot x = none) :
    ∃ g, members.foldlM Found.add f = some g ∧ Found.Filled p given f g := by
  induction h generalizing f with
  | nil => exact ⟨f, rfl, Found.filled_nil p f⟩
  | @field x key v members given hkey hv hx h ih =>
    rw [List.forall_mem_cons] at hfree
    have hadd : f.add (key, v) = some (f.fill x (some (p.get x))) :=
      Found.add_eq_some_iff.mpr (.inl ⟨x, _, hkey, hfree.1, hv, rfl⟩)
    have hrest : ∀ y ∈ given, (f.fill x (some (p.get x))).slot y = none := by
      intro y hy
      have hne : y ≠ x := fun heq => hx (heq ▸ hy)
      rw [Found.slot_fill_of_ne hne]
      exact hfree.2 y hy
    obtain ⟨g, hg, hfilled⟩ := ih hrest
    exact ⟨g, by rw [List.foldlM_cons, hadd]; exact hg, hfilled.cons hfree.1 hx⟩
  | @unknown name key v members given hkey hname h ih =>
    have hadd : f.add (key, v) = some f := Found.add_unknown hkey hname
    obtain ⟨g, hg, hfilled⟩ := ih hfree
    exact ⟨g, by rw [List.foldlM_cons, hadd]; exact hg, hfilled⟩

/-- What is found in the end tells what the members gave. -/
theorem exists_gives_of_foldlM (h : members.foldlM Found.add f = some g)
    (hq : ∀ x a, g.slot x = some a → a = q.get x) :
    ∃ given, Gives q members given ∧ Found.Filled q given f g := by
  induction members generalizing f with
  | nil =>
    obtain rfl : f = g := Option.some.inj h
    exact ⟨[], .nil, Found.filled_nil q f⟩
  | cons member members ih =>
    obtain ⟨key, v⟩ := member
    obtain ⟨next, hadd, hrun⟩ := Option.bind_eq_some_iff.mp h
    obtain ⟨given, hgives, hfilled⟩ := ih hrun
    obtain ⟨x, a, hkey, hfree, ha, rfl⟩ | ⟨name, hkey, hname, rfl⟩ := Found.add_eq_some_iff.mp hadd
    · obtain rfl : a = q.get x := hq x a hfilled.slot_eq
      exact ⟨x :: given, .field hkey ha hfilled.not_mem hgives, hfilled.cons hfree hfilled.not_mem⟩
    · exact ⟨given, .unknown hkey hname hgives, hfilled⟩

theorem get_overlay (given : List Field) (p : Parameters) (x : Field) :
    (overlay given p).get x = if x ∈ given then p.get x else standard.get x :=
  get_ofGet _ x

theorem Found.Filled.parameters_eq (h : Found.Filled p given {} g) :
    g.parameters = overlay given p := by
  apply eq_of_get
  intro x
  rw [Found.get_parameters, h.slot, get_overlay, Found.slot_empty]
  split
  · rfl
  · rfl

theorem ofMembers?_of_gives (h : Gives p members given) :
    ofMembers? members = some (overlay given p) := by
  obtain ⟨g, hg, hfilled⟩ := h.exists_filled fun x _ => Found.slot_empty x
  rw [ofMembers?, hg, Option.map_some, hfilled.parameters_eq]

theorem ofMembers?_eq_some_iff :
    ofMembers? members = some q ↔ ∃ given, Gives q members given ∧ overlay given q = q := by
  constructor
  · intro h
    obtain ⟨g, hg, rfl⟩ := Option.map_eq_some_iff.mp h
    have hslots : ∀ x a, g.slot x = some a → a = g.parameters.get x := by
      intro x a ha
      rw [Found.get_parameters, ha, Option.getD_some]
    obtain ⟨given, hgives, hfilled⟩ := exists_gives_of_foldlM hg hslots
    exact ⟨given, hgives, hfilled.parameters_eq.symm⟩
  · intro h
    obtain ⟨given, hgives, hq⟩ := h
    rw [ofMembers?_of_gives hgives, hq]

theorem Gives.nodup (h : Gives p members given) : given.Nodup := by
  induction h with
  | nil => exact .nil
  | field _ _ hx _ ih => exact List.nodup_cons.mpr ⟨hx, ih⟩
  | unknown _ _ _ ih => exact ih

def occurrences (x : Field) (members : List Member) : Nat :=
  members.countP fun m => Utf16.text? m.1 = some x.name

theorem Gives.occurrences_eq (h : Gives p members given) (x : Field) :
    occurrences x members = given.count x := by
  rw [occurrences]
  induction h with
  | nil => rfl
  | @field y key v members given hkey hv hy h ih =>
    rw [List.countP_cons, ih, List.count_cons, hkey]
    by_cases hxy : y = x
    · simp [hxy]
    · have hname : y.name ≠ x.name := fun heq => hxy (Field.name_inj heq)
      simp [hxy, hname]
  | @unknown name key v members given hkey hname h ih =>
    have hne : name ≠ x.name := fun heq => hname (mem_fieldNames_iff.mpr ⟨x, heq⟩)
    rw [List.countP_cons, ih, hkey]
    simp [hne]

theorem Gives.writes (h : Gives p members given) {x : Field} {key : List UInt16} {v : Value}
    (hm : (key, v) ∈ members) (hkey : Utf16.text? key = some x.name) : x.Writes (p.get x) v := by
  induction h with
  | nil => cases hm
  | @field y key' v' members given hkey' hv hy h ih =>
    obtain heq | hm := List.mem_cons.mp hm
    · cases heq
      obtain rfl : x = y := Field.name_inj (Option.some.inj (hkey.symm.trans hkey'))
      exact hv
    · exact ih hm
  | @unknown name key' v' members given hkey' hname h ih =>
    obtain heq | hm := List.mem_cons.mp hm
    · cases heq
      have hx : name = x.name := Option.some.inj (hkey'.symm.trans hkey)
      exact absurd (mem_fieldNames_iff.mpr ⟨x, hx⟩) hname
    · exact ih hm

theorem writes_json (hp : p.outputLength < UInt64.size) (x : Field) :
    x.Writes (p.get x) (x.json (p.get x)) := by
  cases x with
  | cost c => rfl
  | outputLength => exact ⟨hp, rfl⟩
  | variant => exact ⟨_, Utf16.text?_ofText _, .inl rfl⟩

theorem gives_map (hp : p.outputLength < UInt64.size) (hgiven : given.Nodup) :
    Gives p (given.map p.member) given := by
  induction given with
  | nil => exact .nil
  | cons x given ih =>
    obtain ⟨hx, hgiven⟩ := List.nodup_cons.mp hgiven
    exact .field (Utf16.text?_ofText x.name) (writes_json hp x) hx (ih hgiven)

theorem overlay_all (p : Parameters) : overlay Field.all p = p := by
  apply eq_of_get
  intro x
  rw [get_overlay, if_pos x.mem_all]

/-- All fields in order are an object that gives them all. -/
theorem parse?_serialize (hp : p.outputLength < UInt64.size) : parse? p.serialize = some p := by
  have hall : Field.all.Nodup := by decide
  have hgives : Gives p p.toMembers Field.all := gives_map hp hall
  rw [parse?, serialize, toJson, Json.parse?_print, Option.bind_some, ofJson?,
    ofMembers?_of_gives hgives, overlay_all]

theorem parse?_of_object {text : String} (ht : Json.parse? text = some (.object members)) :
    parse? text = ofMembers? members := by
  rw [parse?, ht, Option.bind_some, ofJson?]

end members

/-- Parameters read back from their own text. An object that gives some fields of parameters, in any
order and among members of any other name, is read as those fields over the standard parameters, and
nothing else is read from an object; so a field named twice is refused, and a cost that is no number
of 32 bits. Every object is the object of some text. -/
theorem fields_overlaid :
    (∀ p : Parameters, p.outputLength < UInt64.size → parse? p.serialize = some p) ∧
    (∀ text members, Json.parse? text = some (.object members) →
      (∀ p given, Gives p members given → parse? text = some (overlay given p)) ∧
      (∀ p, parse? text = some p ↔ ∃ given, Gives p members given ∧ overlay given p = p) ∧
      (∀ x, 1 < occurrences x members → parse? text = none) ∧
      ∀ c key v, (key, v) ∈ members → Utf16.text? key = some (Field.cost c).name →
        (∀ n : UInt32, v ≠ naturalJson n.toNat) → parse? text = none) ∧
    (∀ p given, p.outputLength < UInt64.size → given.Nodup → Gives p (given.map p.member) given) ∧
    ∀ members, Json.parse? (String.ofList (Json.print (.object members))) =
      some (.object members) := by
  refine ⟨?_, ?_, ?_, ?_⟩
  · intro p hp
    exact parse?_serialize hp
  · intro text members ht
    rw [parse?_of_object ht]
    refine ⟨?_, ?_, ?_, ?_⟩
    · intro p given h
      exact ofMembers?_of_gives h
    · intro p
      exact ofMembers?_eq_some_iff
    · intro x hx
      by_contra hne
      obtain ⟨p, hp⟩ := Option.ne_none_iff_exists'.mp hne
      obtain ⟨given, hgives, -⟩ := ofMembers?_eq_some_iff.mp hp
      have hcount := List.nodup_iff_count_le_one.mp hgives.nodup x
      rw [hgives.occurrences_eq] at hx
      omega
    · intro c key v hm hkey hv
      by_contra hne
      obtain ⟨p, hp⟩ := Option.ne_none_iff_exists'.mp hne
      obtain ⟨given, hgives, -⟩ := ofMembers?_eq_some_iff.mp hp
      exact hv _ (hgives.writes hm hkey)
  · intro p given hp hgiven
    exact gives_map hp hgiven
  · intro members
    exact Json.parse?_print (.object members)

/-- Three of the fields out of order, with the largest numbers, among members of other names; then
the same with one field twice, and with a cost that is one too large. -/
theorem fields_overlaid_partial :
    let p : Parameters := {
      timeCost := 4294967295
      memoryCost := 7
      parallelism := 3
      outputLength := 18446744073709551615
      variant := .argon2id }
    let note : Value := .array [.object [(Utf16.ofText "time_cost", .null)], .string [0xD800],
      .number { negative := true, whole := 1, fraction := [5], exponent := some 400 }]
    let name : Value := .object [(Utf16.ofText "argon2id", .null)]
    let members : List Member := [(Utf16.ofText "note", note), p.member .outputLength,
      (Utf16.ofText "", .null), p.member (.cost .time), (Utf16.ofText "variant", name)]
    let text := "\x7b\"note\":[\x7b\"time_cost\":null\x7d,\"\\ud800\",-1.5e400]," ++
      "\"output_len\":18446744073709551615,\"\":null,\"time_cost\":4294967295," ++
      "\"variant\":\x7b\"argon2id\":null\x7d\x7d"
    let twice := p.member .outputLength :: members
    let large : List Member := (Utf16.ofText "memory_cost", naturalJson 4294967296) :: members
    p.outputLength < UInt64.size ∧ parse? p.serialize = some p ∧
      Json.parse? text = some (.object members) ∧
      Gives p members [.outputLength, .cost .time, .variant] ∧
      parse? text = some { p with memoryCost := 8, parallelism := 1 } ∧
      1 < occurrences .outputLength twice ∧
      parse? (String.ofList (Json.print (.object twice))) = none ∧
      parse? (String.ofList (Json.print (.object large))) = none := by
  intro p note name members text twice large
  obtain ⟨hserialize, hobject, -, hprint⟩ := fields_overlaid
  have hp : p.outputLength < UInt64.size := by decide
  have htext : String.ofList (Json.print (.object members)) = text := by decide +kernel
  have hread : Json.parse? text = some (.object members) := htext ▸ hprint members
  have hvariant : Field.variant.Writes (p.get .variant) name :=
    ⟨_, Utf16.text?_ofText "argon2id", .inr rfl⟩
  have hgives : Gives p members [.outputLength, .cost .time, .variant] := by
    apply Gives.unknown (Utf16.text?_ofText "note") (by decide)
    apply Gives.field (Utf16.text?_ofText _) (writes_json hp .outputLength) (by decide)
    apply Gives.unknown (Utf16.text?_ofText "") (by decide)
    apply Gives.field (Utf16.text?_ofText _) (writes_json hp (.cost .time)) (by decide)
    exact .field (Utf16.text?_ofText "variant") hvariant (by decide) .nil
  have htwice : 1 < occurrences .outputLength twice := by
    have hkey : Utf16.text? (p.member .outputLength).1 = some Field.outputLength.name :=
      Utf16.text?_ofText _
    rw [occurrences, List.countP_cons, ← occurrences, hgives.occurrences_eq]
    simp [hkey]
  have hlarge : ∀ n : UInt32, naturalJson 4294967296 ≠ naturalJson n.toNat := by
    intro n hn
    have hlt := n.toNat_lt
    simp only [naturalJson, Value.number.injEq, Json.Number.mk.injEq] at hn
    omega
  refine ⟨hp, hserialize p hp, hread, hgives, ?_, htwice, ?_, ?_⟩
  · exact (hobject text members hread).1 p _ hgives
  · exact (hobject _ twice (hprint twice)).2.2.1 .outputLength htwice
  · exact (hobject _ large (hprint large)).2.2.2 .memory _ _ List.mem_cons_self
      (Utf16.text?_ofText "memory_cost") hlarge

end Argon2Native.Parameters
