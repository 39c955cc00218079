import Argon2Native.Config.Settings
import Mathlib.Data.List.Induction
/-!
Merging layers of settings. A value is what the last layer that sets it says, and a table stands
where some layer has it, be it empty; the two together are all there is to settings.

Main statement: `lastWins_monoid`.
-/
namespace Argon2Native.Config

instance : Std.Associative LibraryTable.merge where
  assoc _ _ _ := by simp only [LibraryTable.merge, Option.or_assoc]

instance : Std.Associative LimitsTable.merge where
  assoc _ _ _ := by simp only [LimitsTable.merge, Option.or_assoc]

instance : Std.Associative DefaultsTable.merge where
  assoc _ _ _ := by simp only [DefaultsTable.merge, Option.or_assoc]

instance : Std.IdempotentOp LibraryTable.merge where
  idempotent _ := by simp only [LibraryTable.merge, Option.or_self]

instance : Std.IdempotentOp LimitsTable.merge where
  idempotent _ := by simp only [LimitsTable.merge, Option.or_self]

instance : Std.IdempotentOp DefaultsTable.merge where
  idempotent _ := by simp only [DefaultsTable.merge, Option.or_self]

namespace Settings

@[simp] theorem merge_empty (s : Settings) : s.merge empty = s := by
  simp [merge, empty]

@[simp] theorem empty_merge (s : Settings) : empty.merge s = s := by
  simp [merge, empty]

theorem merge_assoc (a b c : Settings) : (a.merge b).merge c = a.merge (b.merge c) := by
  simp only [merge, mk.injEq]
  exact ⟨Std.Associative.assoc _ _ _, Std.Associative.assoc _ _ _, Std.Associative.assoc _ _ _⟩

theorem merge_self (s : Settings) : s.merge s = s := by
  obtain ⟨library, limits, defaults⟩ := s
  simp only [merge, mk.injEq]
  exact ⟨Std.IdempotentOp.idempotent _, Std.IdempotentOp.idempotent _,
    Std.IdempotentOp.idempotent _⟩

/-- A value of a merged table is that of the upper table, where it sets one. -/
theorem bind_merge {α β : Type} {mergeTables : α → α → α} {value : α → Option β}
    (hv : ∀ base top, value (mergeTables base top) = (value top).or (value base))
    (base top : Option α) :
    (base.merge mergeTables top).bind value = (top.bind value).or (base.bind value) := by
  cases base <;> cases top <;> simp [hv]

section values

variable (base top : Settings)

theorem libraryDir?_merge :
    (base.merge top).libraryDir? = top.libraryDir?.or base.libraryDir? :=
  bind_merge (fun _ _ => rfl) _ _

theorem fallbackDir?_merge :
    (base.merge top).fallbackDir? = top.fallbackDir?.or base.fallbackDir? :=
  bind_merge (fun _ _ => rfl) _ _

theorem maxOutputLength?_merge :
    (base.merge top).maxOutputLength? = top.maxOutputLength?.or base.maxOutputLength? :=
  bind_merge (fun _ _ => rfl) _ _

theorem timeCost?_merge : (base.merge top).timeCost? = top.timeCost?.or base.timeCost? :=
  bind_merge (fun _ _ => rfl) _ _

theorem memoryCost?_merge : (base.merge top).memoryCost? = top.memoryCost?.or base.memoryCost? :=
  bind_merge (fun _ _ => rfl) _ _

theorem parallelism?_merge :
    (base.merge top).parallelism? = top.parallelism?.or base.parallelism? :=
  bind_merge (fun _ _ => rfl) _ _

theorem outputLength?_merge :
    (base.merge top).outputLength? = top.outputLength?.or base.outputLength? :=
  bind_merge (fun _ _ => rfl) _ _

theorem variant?_merge : (base.merge top).variant? = top.variant?.or base.variant? :=
  bind_merge (fun _ _ => rfl) _ _

end values

section layers

variable {α : Type} {value : Settings → Option α} {layers : List Settings}

inductive LastSet (value : Settings → Option α) (layers : List Settings) : Option α → Prop
  | unset (h : ∀ s ∈ layers, value s = none) : LastSet value layers none
  | set {before after : List Settings} {s : Settings} {a : α}
      (hl : layers = before ++ s :: after) (hs : value s = some a)
      (ha : ∀ t ∈ after, value t = none) : LastSet value layers (some a)

/-- Read from the end, the last layer that sets a value is the first. -/
theorem lastSet_iff {found : Option α} :
    LastSet value layers found ↔ layers.reverse.findSome? value = found := by
  cases found with
  | none =>
    rw [List.findSome?_eq_none_iff]
    constructor
    · intro h s hs
      cases h with
      | unset h => exact h s (List.mem_reverse.mp hs)
    · exact fun h => .unset fun s hs => h s (List.mem_reverse.mpr hs)
  | some a =>
    rw [List.findSome?_eq_some_iff]
    constructor
    · intro h
      cases h with
      | @set before after s _ hl hs ha =>
        refine ⟨after.reverse, s, before.reverse, ?_, hs, fun t ht => ha t (List.mem_reverse.mp ht)⟩
        simp [hl]
    · rintro ⟨after, s, before, hl, hs, ha⟩
      have hl' : layers = before.reverse ++ s :: after.reverse := by
        simpa using List.reverse_eq_iff.mp hl
      exact .set hl' hs fun t ht => ha t (List.mem_reverse.mp ht)

theorem LastSet.unique {found found' : Option α} (h : LastSet value layers found)
    (h' : LastSet value layers found') : found = found' :=
  (lastSet_iff.mp h).symm.trans (lastSet_iff.mp h')

theorem LastSet.eq_some_iff {found : Option α} {a : α} (h : LastSet value layers found) :
    found = some a ↔ LastSet value layers (some a) :=
  ⟨fun ha => ha ▸ h, h.unique⟩

theorem mergeAll_concat (layers : List Settings) (top : Settings) :
    mergeAll (layers ++ [top]) = (mergeAll layers).merge top := by
  rw [mergeAll, List.foldl_append]
  rfl

theorem lastSet_mergeAll (hempty : value empty = none)
    (hmerge : ∀ base top, value (Settings.merge base top) = (value top).or (value base))
    (layers : List Settings) : LastSet value layers (value (mergeAll layers)) := by
  rw [lastSet_iff]
  induction layers using List.reverseRecOn with
  | nil => exact hempty.symm
  | append_singleton layers top ih =>
    rw [List.reverse_concat, List.findSome?_cons, mergeAll_concat, hmerge, ih]
    cases value top <;> rfl

theorem isSome_mergeAll {τ : Type} {table : Settings → Option τ} {mergeTables : τ → τ → τ}
    (hempty : table empty = none)
    (hmerge : ∀ base top, table (Settings.merge base top) =
      (table base).merge mergeTables (table top))
    (layers : List Settings) :
    (table (mergeAll layers)).isSome ↔ ∃ s ∈ layers, (table s).isSome := by
  induction layers using List.reverseRecOn with
  | nil => simp [mergeAll, hempty]
  | append_singleton layers top ih =>
    rw [mergeAll_concat, hmerge, Option.isSome_merge, Bool.or_eq_true, ih]
    simp [or_and_right, exists_or]

end layers

structure LastWins (layers : List Settings) (s : Settings) : Prop where
  libraryDir : LastSet libraryDir? layers s.libraryDir?
  fallbackDir : LastSet fallbackDir? layers s.fallbackDir?
  maxOutputLength : LastSet maxOutputLength? layers s.maxOutputLength?
  timeCost : LastSet timeCost? layers s.timeCost?
  memoryCost : LastSet memoryCost? layers s.memoryCost?
  parallelism : LastSet parallelism? layers s.parallelism?
  outputLength : LastSet outputLength? layers s.outputLength?
  variant : LastSet variant? layers s.variant?
  library : s.library.isSome ↔ ∃ t ∈ layers, t.library.isSome
  limits : s.limits.isSome ↔ ∃ t ∈ layers, t.limits.isSome
  defaults : s.defaults.isSome ↔ ∃ t ∈ layers, t.defaults.isSome

theorem lastWins_mergeAll (layers : List Settings) : LastWins layers (mergeAll layers) where
  libraryDir := lastSet_mergeAll rfl libraryDir?_merge layers
  fallbackDir := lastSet_mergeAll rfl fallbackDir?_merge layers
  maxOutputLength := lastSet_mergeAll rfl maxOutputLength?_merge layers
  timeCost := lastSet_mergeAll rfl timeCost?_merge layers
  memoryCost := lastSet_mergeAll rfl memoryCost?_merge layers
  parallelism := lastSet_mergeAll rfl parallelism?_merge layers
  outputLength := lastSet_mergeAll rfl outputLength?_merge layers
  variant := lastSet_mergeAll rfl variant?_merge layers
  library := isSome_mergeAll rfl (fun _ _ => rfl) layers
  limits := isSome_mergeAll rfl (fun _ _ => rfl) layers
  defaults := isSome_mergeAll rfl (fun _ _ => rfl) layers

theorem eq_of_isSome_iff {τ : Type} {a b : Option τ} (h : a.isSome ↔ b.isSome)
    (htables : ∀ x y, a = some x → b = some y → x = y) : a = b := by
  cases a with
  | none =>
    cases b with
    | none => rfl
    | some y => simp at h
  | some x =>
    cases b with
    | none => simp at h
    | some y => rw [htables x y rfl rfl]

/-- There is nothing more to settings than their values and which tables stand. -/
theorem LastWins.unique {layers : List Settings} {s t : Settings} (hs : LastWins layers s)
    (ht : LastWins layers t) : s = t := by
  have hlibrary : s.library = t.library := by
    refine eq_of_isSome_iff (hs.library.trans ht.library.symm) fun x y hx hy => ?_
    have hdir := hs.libraryDir.unique ht.libraryDir
    have hfallback := hs.fallbackDir.unique ht.fallbackDir
    simp only [libraryDir?, fallbackDir?, hx, hy, Option.bind_some] at hdir hfallback
    rw [LibraryTable.mk.injEq]
    exact ⟨hdir, hfallback⟩
  have hlimits : s.limits = t.limits := by
    refine eq_of_isSome_iff (hs.limits.trans ht.limits.symm) fun x y hx hy => ?_
    have hmost := hs.maxOutputLength.unique ht.maxOutputLength
    simp only [maxOutputLength?, hx, hy, Option.bind_some] at hmost
    rw [LimitsTable.mk.injEq]
    exact hmost
  have hdefaults : s.defaults = t.defaults := by
    refine eq_of_isSome_iff (hs.defaults.trans ht.defaults.symm) fun x y hx hy => ?_
    have htime := hs.timeCost.unique ht.timeCost
    have hmemory := hs.memoryCost.unique ht.memoryCost
    have hlanes := hs.parallelism.unique ht.parallelism
    have hlength := hs.outputLength.unique ht.outputLength
    have hvariant := hs.variant.unique ht.variant
    simp only [timeCost?, memoryCost?, parallelism?, outputLength?, variant?, hx, hy,
      Option.bind_some] at htime hmemory hlanes hlength hvariant
    rw [DefaultsTable.mk.injEq]
    exact ⟨htime, hmemory, hlanes, hlength, hvariant⟩
  rw [mk.injEq]
  exact ⟨hlibrary, hlimits, hdefaults⟩

/-- Layers merged one after the other, from nothing, give exactly the settings in which the last
layer wins, value by value, and every table stands that some layer has. So it does not matter where
the merging starts; a layer that is empty adds nothing on either side, and neither does one that is
merged into itself or merged again. -/
theorem lastWins_monoid :
    (∀ (layers : List Settings) (s : Settings), s = mergeAll layers ↔ LastWins layers s) ∧
    (∀ a b c : Settings, (a.merge b).merge c = a.merge (b.merge c)) ∧
    (∀ s : Settings, empty.merge s = s ∧ s.merge empty = s) ∧
    (∀ s : Settings, s.merge s = s) ∧ ∀ a b : Settings, (a.merge b).merge b = a.merge b := by
  refine ⟨?_, merge_assoc, fun s => ⟨empty_merge s, merge_empty s⟩, merge_self, ?_⟩
  · intro layers s
    constructor
    · rintro rfl
      exact lastWins_mergeAll layers
    · intro hs
      exact hs.unique (lastWins_mergeAll layers)
  · intro a b
    rw [merge_assoc, merge_self]

end Settings
end Argon2Native.Config
