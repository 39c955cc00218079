import Argon2Native.Config.Schema
import Argon2Native.Proofs.DistinctKeys
import Mathlib.Data.List.Nodup
import Mathlib.Data.Option.Basic
/-!
Which trees are settings. There are three tables, each with its fields, and every field takes text,
a number that is not negative, or one of 32 bits; a tree with any other key or value is refused.
What is read is what the tree holds and no more, in whatever order it stands there.

Main statement: `parse_schema`.
-/
namespace Argon2Native.Config

open Toml (Value Entries)

inductive Kind where
  | text
  | count
  | word

def Kind.Admits : Kind → Value → Prop
  | .text, v => ∃ s, v = .string s
  | .count, v => ∃ n : Nat, v = .integer n
  | .word, v => ∃ n : Nat, n < UInt32.size ∧ v = .integer n

def libraryFields : List (String × Kind) := [("dir", .text), ("fallback_dir", .text)]

def limitsFields : List (String × Kind) := [("max_output_len", .count)]

def defaultsFields : List (String × Kind) :=
  [("time_cost", .word), ("memory_cost", .word), ("parallelism", .word), ("output_len", .count),
   ("variant", .text)]

def tables : List (String × List (String × Kind)) :=
  [("library", libraryFields), ("limits", limitsFields), ("defaults", defaultsFields)]

def Declared {κ : Type} (declared : List (String × κ)) (admits : κ → Value → Prop)
    (entries : Entries) : Prop :=
  ∀ e ∈ entries, ∃ kind, (e.1, kind) ∈ declared ∧ admits kind e.2

def Fits (fields : List (String × Kind)) (inner : Entries) : Prop :=
  Declared fields Kind.Admits inner

def Conforms (entries : Entries) : Prop :=
  Declared tables (fun fields v => ∃ inner, v = .table inner ∧ Fits fields inner) entries

def InTables (entries : Entries) : Prop :=
  ∀ e ∈ entries, e.1 ∈ tables.map Prod.fst → ∃ inner, e.2 = .table inner

structure LibraryTable.Holds (t : LibraryTable) (inner : Entries) : Prop where
  dir : ∀ p, t.dir = some p ↔ ∃ s, ("dir", .string s) ∈ inner ∧ p = Path.ofText s
  fallbackDir : ∀ p, t.fallbackDir = some p ↔
    ∃ s, ("fallback_dir", .string s) ∈ inner ∧ p = Path.ofText s

structure LimitsTable.Holds (t : LimitsTable) (inner : Entries) : Prop where
  maxOutputLength : ∀ n, t.maxOutputLength = some n ↔ ("max_output_len", .integer n) ∈ inner

structure DefaultsTable.Holds (t : DefaultsTable) (inner : Entries) : Prop where
  timeCost : ∀ n, t.timeCost = some n ↔ ("time_cost", .integer n.toNat) ∈ inner
  memoryCost : ∀ n, t.memoryCost = some n ↔ ("memory_cost", .integer n.toNat) ∈ inner
  parallelism : ∀ n, t.parallelism = some n ↔ ("parallelism", .integer n.toNat) ∈ inner
  outputLength : ∀ n, t.outputLength = some n ↔ ("output_len", .integer n) ∈ inner
  variant : ∀ s, t.variant = some s ↔ ("variant", .string s) ∈ inner

structure Settings.Holds (s : Settings) (entries : Entries) : Prop where
  library : ∀ t, s.library = some t ↔ ∃ inner, ("library", .table inner) ∈ entries ∧ t.Holds inner
  limits : ∀ t, s.limits = some t ↔ ∃ inner, ("limits", .table inner) ∈ entries ∧ t.Holds inner
  defaults : ∀ t, s.defaults = some t ↔
    ∃ inner, ("defaults", .table inner) ∈ entries ∧ t.Holds inner

section values

variable {v : Value}

theorem text?_eq_some_iff {s : String} : text? v = some s ↔ v = .string s := by
  cases v <;> simp [text?]

theorem path?_eq_some_iff {p : Path} :
    path? v = some p ↔ ∃ s, v = .string s ∧ p = Path.ofText s := by
  rw [path?, Option.map_eq_some_iff]
  simp only [text?_eq_some_iff, eq_comm (a := p)]

theorem count?_eq_some_iff {n : Nat} : count? v = some n ↔ v = .integer n := by
  cases v with
  | integer m =>
    rw [count?, Option.ite_none_right_eq_some, Option.some.injEq, Value.integer.injEq]
    omega
  | _ => simp [count?]

theorem word?_eq_some_iff {n : UInt32} : word? v = some n ↔ v = .integer n.toNat := by
  rw [word?, Option.bind_eq_some_iff]
  constructor
  · intro h
    obtain ⟨m, hm, h⟩ := h
    rw [Option.ite_none_right_eq_some, Option.some.injEq] at h
    obtain ⟨hlt, rfl⟩ := h
    rw [count?_eq_some_iff.mp hm, Nat.toUInt32, UInt32.toNat_ofNat_of_lt' hlt]
  · intro h
    refine ⟨n.toNat, count?_eq_some_iff.mpr h, ?_⟩
    rw [if_pos n.toNat_lt, Nat.toUInt32, UInt32.ofNat_toNat]

theorem isSome_text?_iff : (text? v).isSome ↔ Kind.text.Admits v := by
  simp only [Option.isSome_iff_exists, text?_eq_some_iff, Kind.Admits]

theorem isSome_path?_iff : (path? v).isSome ↔ Kind.text.Admits v := by
  rw [path?, Option.isSome_map, isSome_text?_iff]

theorem isSome_count?_iff : (count? v).isSome ↔ Kind.count.Admits v := by
  simp only [Option.isSome_iff_exists, count?_eq_some_iff, Kind.Admits]

theorem isSome_word?_iff : (word? v).isSome ↔ Kind.word.Admits v := by
  simp only [Option.isSome_iff_exists, word?_eq_some_iff, Kind.Admits]
  constructor
  · intro h
    obtain ⟨n, rfl⟩ := h
    exact ⟨n.toNat, n.toNat_lt, rfl⟩
  · intro h
    obtain ⟨n, hn, rfl⟩ := h
    exact ⟨n.toUInt32, by rw [Nat.toUInt32, UInt32.toNat_ofNat_of_lt' hn]⟩

end values

section entries

variable {α : Type} {entries : Entries} {key : String} {read? : Value → Option α}

theorem lookup_eq_some_iff (hkeys : (entries.map Prod.fst).Nodup) {v : Value} :
    entries.lookup key = some v ↔ (key, v) ∈ entries := by
  constructor
  · intro h
    obtain ⟨front, back, rfl, -⟩ := List.lookup_eq_some_iff.mp h
    simp
  · intro h
    obtain ⟨front, back, rfl⟩ := List.append_of_mem h
    refine List.lookup_eq_some_iff.mpr ⟨front, back, rfl, fun e he => ?_⟩
    rw [List.map_append, List.nodup_append] at hkeys
    have hne := hkeys.2.2 e.1 (List.mem_map_of_mem he) key (by simp)
    simpa using hne.symm

theorem isSome_entry?_iff (hkeys : (entries.map Prod.fst).Nodup) :
    ( entry? entries key read?).isSome ↔ ∀ v, (key, v) ∈ entries → (read? v).isSome := by
  have hmem (v : Value) : (key, v) ∈ entries ↔ entries.lookup key = some v :=
    (lookup_eq_some_iff hkeys).symm
  simp only [hmem]
  unfold entry?
  cases entries.lookup key <;> simp

/-- What is read under a key is what a value that stands there reads as. -/
theorem eq_some_iff_of_entry_eq (hkeys : (entries.map Prod.fst).Nodup) {found : Option α}
    (h : entry? entries key read? = some found) (a : α) :
    found = some a ↔ ∃ v, (key, v) ∈ entries ∧ read? v = some a := by
  have hmem (v : Value) : (key, v) ∈ entries ↔ entries.lookup key = some v :=
    (lookup_eq_some_iff hkeys).symm
  simp only [hmem]
  unfold entry? at h
  cases hl : entries.lookup key with
  | none =>
    rw [hl] at h
    cases h
    simp
  | some v =>
    rw [hl] at h
    obtain ⟨b, hb, rfl⟩ := Option.map_eq_some_iff.mp h
    simp [hb]

theorem declared_iff {κ : Type} {declared : List (String × κ)} {admits : κ → Value → Prop}
    (hdeclared : (declared.map Prod.fst).Nodup) :
    Declared declared admits entries ↔ KeysAmong (declared.map Prod.fst) entries ∧
      ∀ f ∈ declared, ∀ v, (f.1, v) ∈ entries → admits f.2 v := by
  constructor
  · intro h
    constructor
    · intro e he
      obtain ⟨kind, hkind, -⟩ := h e he
      exact List.mem_map_of_mem hkind
    · intro f hf v hv
      obtain ⟨kind, hkind, hadmits⟩ := h _ hv
      have hsame : f = (f.1, kind) := List.inj_on_of_nodup_map hdeclared hf hkind rfl
      rw [hsame]
      exact hadmits
  · intro h e he
    obtain ⟨f, hf, hkey⟩ := List.mem_map.mp (h.1 e he)
    refine ⟨f.2, hkey ▸ hf, h.2 f hf e.2 ?_⟩
    rw [hkey]
    exact he

end entries

theorem LibraryTable.Holds.unique {inner : Entries} {t u : LibraryTable} (ht : t.Holds inner)
    (hu : u.Holds inner) : t = u := by
  rw [LibraryTable.mk.injEq]
  constructor
  · exact Option.ext fun p => (ht.dir p).trans (hu.dir p).symm
  · exact Option.ext fun p => (ht.fallbackDir p).trans (hu.fallbackDir p).symm

theorem LimitsTable.Holds.unique {inner : Entries} {t u : LimitsTable} (ht : t.Holds inner)
    (hu : u.Holds inner) : t = u := by
  rw [LimitsTable.mk.injEq]
  exact Option.ext fun n => (ht.maxOutputLength n).trans (hu.maxOutputLength n).symm

theorem DefaultsTable.Holds.unique {inner : Entries} {t u : DefaultsTable} (ht : t.Holds inner)
    (hu : u.Holds inner) : t = u := by
  rw [DefaultsTable.mk.injEq]
  refine ⟨?_, ?_, ?_, ?_, ?_⟩
  · exact Option.ext fun n => (ht.timeCost n).trans (hu.timeCost n).symm
  · exact Option.ext fun n => (ht.memoryCost n).trans (hu.memoryCost n).symm
  · exact Option.ext fun n => (ht.parallelism n).trans (hu.parallelism n).symm
  · exact Option.ext fun n => (ht.outputLength n).trans (hu.outputLength n).symm
  · exact Option.ext fun s => (ht.variant s).trans (hu.variant s).symm

section fields

variable {inner : Entries} (hkeys : (inner.map Prod.fst).Nodup)
include hkeys

theorem LibraryTable.isSome_ofToml?_iff :
    (ofToml? (.table inner)).isSome ↔ Fits libraryFields inner := by
  have hdo : (ofToml? (.table inner)).isSome ↔ KeysAmong ["dir", "fallback_dir"] inner ∧
      ( entry? inner "dir" path?).isSome ∧ ( entry? inner "fallback_dir" path?).isSome := by
    simp [ofToml?, Option.isSome_iff_exists, Option.bind_eq_some_iff]
  rw [hdo, Fits, declared_iff (by decide)]
  simp [libraryFields, isSome_entry?_iff hkeys, isSome_path?_iff]

theorem LibraryTable.holds_of_ofToml? {t : LibraryTable} (h : ofToml? (.table inner) = some t) :
    t.Holds inner := by
  simp only [ofToml?, bind, Option.bind_eq_some_iff] at h
  obtain ⟨-, -, dir, hdir, fallbackDir, hfallback, h⟩ := h
  cases h
  constructor
  · simp [eq_some_iff_of_entry_eq hkeys hdir, path?_eq_some_iff]
  · simp [eq_some_iff_of_entry_eq hkeys hfallback, path?_eq_some_iff]

theorem LimitsTable.isSome_ofToml?_iff :
    (ofToml? (.table inner)).isSome ↔ Fits limitsFields inner := by
  have hdo : (ofToml? (.table inner)).isSome ↔ KeysAmong ["max_output_len"] inner ∧
      ( entry? inner "max_output_len" count?).isSome := by
    simp [ofToml?, Option.isSome_iff_exists, Option.bind_eq_some_iff]
  rw [hdo, Fits, declared_iff (by decide)]
  simp [limitsFields, isSome_entry?_iff hkeys, isSome_count?_iff]

theorem LimitsTable.holds_of_ofToml? {t : LimitsTable} (h : ofToml? (.table inner) = some t) :
    t.Holds inner := by
  simp only [ofToml?, bind, Option.bind_eq_some_iff] at h
  obtain ⟨-, -, n, hn, h⟩ := h
  cases h
  constructor
  simp [eq_some_iff_of_entry_eq hkeys hn, count?_eq_some_iff]

theorem DefaultsTable.isSome_ofToml?_iff :
    (ofToml? (.table inner)).isSome ↔ Fits defaultsFields inner := by
  have hdo : (ofToml? (.table inner)).isSome ↔
      KeysAmong ["time_cost", "memory_cost", "parallelism", "output_len", "variant"] inner ∧
      ( entry? inner "time_cost" word?).isSome ∧ ( entry? inner "memory_cost" word?).isSome ∧
      ( entry? inner "parallelism" word?).isSome ∧ ( entry? inner "output_len" count?).isSome ∧
      ( entry? inner "variant" text?).isSome := by
    simp [ofToml?, Option.isSome_iff_exists, Option.bind_eq_some_iff]
  rw [hdo, Fits, declared_iff (by decide)]
  simp [defaultsFields, isSome_entry?_iff hkeys, isSome_word?_iff, isSome_count?_iff,
    isSome_text?_iff]

theorem DefaultsTable.holds_of_ofToml? {t : DefaultsTable} (h : ofToml? (.table inner) = some t) :
    t.Holds inner := by
  simp only [ofToml?, bind, Option.bind_eq_some_iff] at h
  obtain ⟨-, -, time, htime, memory, hmemory, lanes, hlanes, length, hlength, name, hname, h⟩ := h
  cases h
  constructor
  · simp [eq_some_iff_of_entry_eq hkeys htime, word?_eq_some_iff]
  · simp [eq_some_iff_of_entry_eq hkeys hmemory, word?_eq_some_iff]
  · simp [eq_some_iff_of_entry_eq hkeys hlanes, word?_eq_some_iff]
  · simp [eq_some_iff_of_entry_eq hkeys hlength, count?_eq_some_iff]
  · simp [eq_some_iff_of_entry_eq hkeys hname, text?_eq_some_iff]

end fields

section trees

variable {entries : Entries} {s : Settings} {name : String} {τ : Type} {read? : Value → Option τ}

/-- One of the tables reads where it stands if it is as it must be. -/
theorem isSome_entry?_of_table (hd : (Value.table entries).Distinct) (hin : InTables entries)
    {fields : List (String × Kind)} (hname : (name, fields) ∈ tables)
    (hfits : ∀ {inner : Entries}, (inner.map Prod.fst).Nodup →
      ((read? (.table inner)).isSome ↔ Fits fields inner)) :
    ( entry? entries name read?).isSome ↔
      ∀ v, (name, v) ∈ entries → ∃ inner, v = .table inner ∧ Fits fields inner := by
  rw [isSome_entry?_iff hd.keys]
  constructor
  · intro h v hv
    obtain ⟨inner, rfl⟩ := hin _ hv (List.mem_map_of_mem hname)
    exact ⟨inner, rfl, (hfits (hd.value hv).keys).mp (h _ hv)⟩
  · intro h v hv
    obtain ⟨inner, rfl, hf⟩ := h v hv
    exact (hfits (hd.value hv).keys).mpr hf

/-- One of the tables is read as what it holds, if it is in the tree at all. -/
theorem eq_some_iff_of_table (hd : (Value.table entries).Distinct) (hin : InTables entries)
    (hname : name ∈ tables.map Prod.fst) {holds : τ → Entries → Prop}
    (hholds : ∀ {inner : Entries}, (inner.map Prod.fst).Nodup → ∀ {t},
      read? (.table inner) = some t → holds t inner)
    (hunique : ∀ {inner t u}, holds t inner → holds u inner → t = u)
    {found : Option τ} (hfound : entry? entries name read? = some found) (t : τ) :
    found = some t ↔ ∃ inner, (name, .table inner) ∈ entries ∧ holds t inner := by
  rw [eq_some_iff_of_entry_eq hd.keys hfound]
  constructor
  · intro h
    obtain ⟨v, hv, ht⟩ := h
    obtain ⟨inner, rfl⟩ := hin _ hv hname
    exact ⟨inner, hv, hholds (hd.value hv).keys ht⟩
  · intro h
    obtain ⟨inner, hv, ht⟩ := h
    have hread := (isSome_entry?_iff hd.keys).mp (Option.isSome_of_eq_some hfound) _ hv
    obtain ⟨u, hu⟩ := Option.isSome_iff_exists.mp hread
    rw [hunique ht (hholds (hd.value hv).keys hu)]
    exact ⟨_, hv, hu⟩

namespace Settings

theorem isSome_ofToml?_iff (hd : (Value.table entries).Distinct) (hin : InTables entries) :
    (ofToml? (.table entries)).isSome ↔ Conforms entries := by
  have hdo : (ofToml? (.table entries)).isSome ↔
      KeysAmong ["library", "limits", "defaults"] entries ∧
      ( entry? entries "library" LibraryTable.ofToml?).isSome ∧
      ( entry? entries "limits" LimitsTable.ofToml?).isSome ∧
      ( entry? entries "defaults" DefaultsTable.ofToml?).isSome := by
    simp [ofToml?, Option.isSome_iff_exists, Option.bind_eq_some_iff]
  rw [hdo, Conforms, declared_iff (by decide),
    isSome_entry?_of_table hd hin (by simp [tables]) LibraryTable.isSome_ofToml?_iff,
    isSome_entry?_of_table hd hin (by simp [tables]) LimitsTable.isSome_ofToml?_iff,
    isSome_entry?_of_table hd hin (by simp [tables]) DefaultsTable.isSome_ofToml?_iff]
  simp [tables]

theorem holds_of_ofToml? (hd : (Value.table entries).Distinct) (hin : InTables entries)
    (h : ofToml? (.table entries) = some s) : s.Holds entries := by
  simp only [ofToml?, bind, Option.bind_eq_some_iff] at h
  obtain ⟨-, -, library, hlibrary, limits, hlimits, defaults, hdefaults, h⟩ := h
  cases h
  constructor
  · exact eq_some_iff_of_table hd hin (by decide) LibraryTable.holds_of_ofToml?
      LibraryTable.Holds.unique hlibrary
  · exact eq_some_iff_of_table hd hin (by decide) LimitsTable.holds_of_ofToml?
      LimitsTable.Holds.unique hlimits
  · exact eq_some_iff_of_table hd hin (by decide) DefaultsTable.holds_of_ofToml?
      DefaultsTable.Holds.unique hdefaults

theorem Holds.unique {t : Settings} (hs : s.Holds entries) (ht : t.Holds entries) : s = t := by
  rw [Settings.mk.injEq]
  refine ⟨?_, ?_, ?_⟩
  · exact Option.ext fun u => (hs.library u).trans (ht.library u).symm
  · exact Option.ext fun u => (hs.limits u).trans (ht.limits u).symm
  · exact Option.ext fun u => (hs.defaults u).trans (ht.defaults u).symm

/-- The trees that are settings are those that conform, and they are read as what they hold. -/
theorem ofToml?_eq_some_iff (hd : (Value.table entries).Distinct) (hin : InTables entries) :
    ofToml? (.table entries) = some s ↔ Conforms entries ∧ s.Holds entries := by
  constructor
  · intro h
    exact ⟨(isSome_ofToml?_iff hd hin).mp (Option.isSome_of_eq_some h), holds_of_ofToml? hd hin h⟩
  · intro h
    obtain ⟨t, ht⟩ := Option.isSome_iff_exists.mp ((isSome_ofToml?_iff hd hin).mpr h.1)
    rw [ht, h.2.unique (holds_of_ofToml? hd hin ht)]

end Settings

end trees

inductive SameEntry : String × Value → String × Value → Prop where
  | refl (e : String × Value) : SameEntry e e
  | table {name : String} {inner other : Entries} (h : inner.Perm other) :
    SameEntry (name, .table inner) (name, .table other)

structure Reordered (entries other : Entries) : Prop where
  left : ∀ e ∈ entries, ∃ e' ∈ other, SameEntry e e'
  right : ∀ e ∈ other, ∃ e' ∈ entries, SameEntry e e'

section order

variable {entries other : Entries}

theorem Reordered.symm (h : Reordered entries other) : Reordered other entries := ⟨h.right, h.left⟩

theorem Reordered.exists_table (h : Reordered entries other) {name : String} {inner : Entries}
    (hmem : (name, .table inner) ∈ entries) :
    ∃ inner', (name, .table inner') ∈ other ∧ inner.Perm inner' := by
  obtain ⟨e, he, hsame⟩ := h.left _ hmem
  cases hsame with
  | refl => exact ⟨inner, he, List.Perm.refl inner⟩
  | table hperm => exact ⟨_, he, hperm⟩

theorem Reordered.inTables (h : Reordered entries other) (hin : InTables entries) :
    InTables other := by
  intro e he hname
  obtain ⟨e', he', hsame⟩ := h.right e he
  cases hsame with
  | refl => exact hin e he' hname
  | table hperm => exact ⟨_, rfl⟩

theorem Reordered.conforms (h : Reordered entries other) (hc : Conforms entries) :
    Conforms other := by
  intro e he
  obtain ⟨e', he', hsame⟩ := h.right e he
  obtain ⟨fields, hname, inner, hinner, hfits⟩ := hc e' he'
  cases hsame with
  | refl => exact ⟨fields, hname, inner, hinner, hfits⟩
  | table hperm =>
    cases hinner
    exact ⟨fields, hname, _, rfl, fun x hx => hfits x (hperm.mem_iff.mp hx)⟩

theorem LibraryTable.Holds.perm {t : LibraryTable} {inner : Entries} (h : t.Holds inner)
    (hperm : inner.Perm other) : t.Holds other := by
  constructor
  · simpa only [hperm.mem_iff] using h.dir
  · simpa only [hperm.mem_iff] using h.fallbackDir

theorem LimitsTable.Holds.perm {t : LimitsTable} {inner : Entries} (h : t.Holds inner)
    (hperm : inner.Perm other) : t.Holds other := by
  constructor
  simpa only [hperm.mem_iff] using h.maxOutputLength

theorem DefaultsTable.Holds.perm {t : DefaultsTable} {inner : Entries} (h : t.Holds inner)
    (hperm : inner.Perm other) : t.Holds other := by
  constructor
  · simpa only [hperm.mem_iff] using h.timeCost
  · simpa only [hperm.mem_iff] using h.memoryCost
  · simpa only [hperm.mem_iff] using h.parallelism
  · simpa only [hperm.mem_iff] using h.outputLength
  · simpa only [hperm.mem_iff] using h.variant

theorem Reordered.exists_iff (h : Reordered entries other) {name : String} {P : Entries → Prop}
    (hP : ∀ {inner inner'}, P inner → inner.Perm inner' → P inner') :
    (∃ inner, (name, .table inner) ∈ entries ∧ P inner) ↔
      ∃ inner, (name, .table inner) ∈ other ∧ P inner := by
  constructor
  · intro hex
    obtain ⟨inner, hmem, hinner⟩ := hex
    obtain ⟨inner', hmem', hperm⟩ := h.exists_table hmem
    exact ⟨inner', hmem', hP hinner hperm⟩
  · intro hex
    obtain ⟨inner, hmem, hinner⟩ := hex
    obtain ⟨inner', hmem', hperm⟩ := h.symm.exists_table hmem
    exact ⟨inner', hmem', hP hinner hperm⟩

theorem Reordered.holds (h : Reordered entries other) {s : Settings} (hs : s.Holds entries) :
    s.Holds other where
  library t := (hs.library t).trans (h.exists_iff LibraryTable.Holds.perm)
  limits t := (hs.limits t).trans (h.exists_iff LimitsTable.Holds.perm)
  defaults t := (hs.defaults t).trans (h.exists_iff DefaultsTable.Holds.perm)

end order

namespace Settings

inductive Parsed (origin : Path) (entries : Entries) : Except Failure Settings → Prop where
  | ok {s : Settings} (hc : Conforms entries) (hs : s.Holds entries) : Parsed origin entries (.ok s)
  | malformed (hc : ¬Conforms entries) : Parsed origin entries (.error (.malformed origin))

variable {origin : Path} {text : String} {entries other : Entries}

theorem parse_eq_iff (ht : Toml.parse? text = some (.table entries)) (hin : InTables entries)
    {r : Except Failure Settings} : parse origin text = r ↔ Parsed origin entries r := by
  obtain ⟨_, he, hd⟩ := Toml.exists_table_of_parse? ht
  rw [parse, ht, Option.bind_some]
  cases hs : ofToml? (.table entries) with
  | some s =>
    obtain ⟨hc, hh⟩ := (ofToml?_eq_some_iff hd hin).mp hs
    constructor
    · intro h
      rw [← h]
      exact .ok hc hh
    · intro h
      cases h with
      | ok hc' hh' => rw [hh.unique hh']
      | malformed hc' => exact absurd hc hc'
  | none =>
    have hc : ¬Conforms entries := by
      rw [← isSome_ofToml?_iff hd hin, hs]
      simp
    constructor
    · intro h
      rw [← h]
      exact .malformed hc
    · intro h
      cases h with
      | ok hc' hh' => exact absurd hc' hc
      | malformed hc' => rfl

theorem Parsed.reordered {r : Except Failure Settings} (h : Parsed origin entries r)
    (hr : Reordered entries other) : Parsed origin other r := by
  cases h with
  | ok hc hs => exact .ok (hr.conforms hc) (hr.holds hs)
  | malformed hc => exact .malformed (mt hr.symm.conforms hc)

/-- A text that is settings is a table in which no table gives a key twice. Where the three tables
of settings are written as tables there, the text is settings exactly if every key is declared and
every value is as it must be; it is read as what stands there, in whatever order that is, and
otherwise the failure names where the text comes from. -/
theorem parse_schema (origin : Path) :
    (∀ text, parse origin text = .error (.malformed origin) ∨
      ∃ entries, Toml.parse? text = some (.table entries) ∧ (Value.table entries).Distinct) ∧
    (∀ entries, (Value.table entries).Distinct → InTables entries →
      ((ofToml? (.table entries)).isSome ↔ Conforms entries) ∧
      ∀ s, ofToml? (.table entries) = some s ↔ Conforms entries ∧ s.Holds entries) ∧
    ∀ text entries, Toml.parse? text = some (.table entries) → InTables entries →
      (∀ r, parse origin text = r ↔ Parsed origin entries r) ∧
      ∀ text' other, Toml.parse? text' = some (.table other) → Reordered entries other →
        parse origin text' = parse origin text := by
  refine ⟨?_, ?_, ?_⟩
  · intro text
    cases ht : Toml.parse? text with
    | none => exact .inl (by rw [parse, ht]; rfl)
    | some tree =>
      obtain ⟨entries, rfl, hd⟩ := Toml.exists_table_of_parse? ht
      exact .inr ⟨entries, rfl, hd⟩
  · intro entries hd hin
    exact ⟨isSome_ofToml?_iff hd hin, fun s => ofToml?_eq_some_iff hd hin⟩
  · intro text entries ht hin
    constructor
    · intro r
      exact parse_eq_iff ht hin
    · intro text' other ht' hr
      have hparsed : Parsed origin entries (parse origin text) := (parse_eq_iff ht hin).mp rfl
      exact (parse_eq_iff ht' (hr.inTables hin)).mpr (hparsed.reordered hr)

/-- Two ways to write the same settings, of which one table is empty and no value would be valid. -/
theorem parse_schema_inline :
    let origin := Path.ofText "argon2.toml"
    let text := "[limits]\n[defaults]\nvariant = 'argon2x'\ntime_cost = 0\n[library]\ndir = ''"
    let text' := "defaults = \x7btime_cost = 0, variant = 'argon2x'\x7d\n" ++
      "library.dir = ''\nlimits = \x7b\x7d"
    let entries : Entries := [("limits", .table []),
      ("defaults", .table [("variant", .string "argon2x"), ("time_cost", .integer 0)]),
      ("library", .table [("dir", .string "")])]
    let other : Entries := [
      ("defaults", .table [("time_cost", .integer 0), ("variant", .string "argon2x")]),
      ("library", .table [("dir", .string "")]), ("limits", .table [])]
    let s : Settings := {
      library := some { dir := some (Path.ofText "") }
      limits := some {}
      defaults := some { timeCost := some 0, variant := some "argon2x" } }
    (Value.table entries).Distinct ∧ Toml.parse? text = some (.table entries) ∧ InTables entries ∧
      Toml.parse? text' = some (.table other) ∧ Reordered entries other ∧
      Conforms entries ∧ s.Holds entries ∧ parse origin text' = .ok s := by
  intro origin text text' entries other s
  have ht : Toml.parse? text = some (.table entries) := by decide +kernel
  have ht' : Toml.parse? text' = some (.table other) := by decide +kernel
  have hin : InTables entries := by simp [InTables, entries, tables]
  have htree : ofToml? (.table entries) = some s := by decide +kernel
  have hs : parse origin text = .ok s := by rw [parse, ht, Option.bind_some, htree]
  have hdefaults : List.Perm [("variant", Value.string "argon2x"), ("time_cost", .integer 0)]
      [("time_cost", .integer 0), ("variant", .string "argon2x")] := .swap _ _ []
  have hr : Reordered entries other := by
    constructor
    · simp only [entries, List.forall_mem_cons]
      refine ⟨⟨_, ?_, .refl _⟩, ⟨_, ?_, .table hdefaults⟩, ⟨_, ?_, .refl _⟩, nofun⟩ <;> simp [other]
    · simp only [other, List.forall_mem_cons]
      refine ⟨⟨_, ?_, .table hdefaults.symm⟩, ⟨_, ?_, .refl _⟩, ⟨_, ?_, .refl _⟩, nofun⟩ <;>
        simp [entries]
  obtain ⟨htexts, htrees, hschema⟩ := parse_schema origin
  have hd : (Value.table entries).Distinct := by
    obtain ⟨read, hread, hd⟩ := (htexts text).resolve_left (by simp [hs])
    rw [ht, Option.some.injEq] at hread
    rwa [hread]
  obtain ⟨hc, hh⟩ := ((htrees entries hd hin).2 s).mp htree
  have hsame := (hschema text entries ht hin).2 text' other ht' hr
  exact ⟨hd, ht, hin, ht', hr, hc, hh, hsame.trans hs⟩

end Settings

end Argon2Native.Config
