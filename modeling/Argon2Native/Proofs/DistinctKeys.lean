import Argon2Native.Toml.Document
import Mathlib.Data.List.Basic
/-!
Keys of TOML tables. No table of a document gives a key twice: what a line adds is a key that its
table does not have yet, and whatever else a line changes keeps its key. The same holds of the
tables that are values.

Main statement: `exists_table_of_parse?`.
-/
namespace Argon2Native

namespace Reader

variable {α β : Type} {P : α → Prop} {Q : β → Prop} {r t : Reader α}

def Yields (r : Reader α) (P : α → Prop) : Prop := ∀ ⦃s a rest⦄, r s = some (a, rest) → P a

theorem yields_refuse : (refuse : Reader α).Yields P := by
  intro s a rest h
  cases h

theorem yields_pure {a : α} (ha : P a) : (pure a : Reader α).Yields P := by
  intro s b rest h
  cases h
  exact ha

theorem yields_bind {f : α → Reader β} (hr : r.Yields P) (hf : ∀ a, P a → (f a).Yields Q) :
    (r >>= f).Yields Q := by
  intro s b rest h
  obtain ⟨⟨a, s'⟩, ha, hb⟩ := Option.bind_eq_some_iff.mp h
  exact hf a (hr ha) hb

theorem yields_trivial (r : Reader α) : r.Yields fun _ => True := by
  intro s a rest h
  trivial

theorem yields_of_bind {f : α → Reader β} (hf : ∀ a, (f a).Yields Q) : (r >>= f).Yields Q :=
  yields_bind (yields_trivial r) fun a _ => hf a

theorem yields_orElse (hr : r.Yields P) (ht : t.Yields P) : (r <|> t).Yields P := by
  intro s a rest h
  change (r s <|> t s) = some (a, rest) at h
  cases hs : r s with
  | some taken =>
    rw [hs] at h
    cases h
    exact hr hs
  | none =>
    rw [hs] at h
    exact ht h

theorem yields_ite {c : Prop} [Decidable c] (hr : r.Yields P) (ht : t.Yields P) :
    (if c then r else t).Yields P := by
  split
  · exact hr
  · exact ht

theorem yields_map {f : α → β} (hr : r.Yields P) (hf : ∀ a, P a → Q (f a)) :
    (f <$> r).Yields Q := by
  rw [← bind_pure_comp]
  exact yields_bind hr fun a ha => yields_pure (hf a ha)

theorem yields_seqLeft {u : Reader β} (hr : r.Yields P) : (r <* u).Yields P := by
  rw [seqLeft_eq_bind]
  exact yields_bind hr fun a ha => yields_of_bind fun _ => yields_pure ha

theorem yields_seqRight {u : Reader β} (hr : r.Yields P) : (u *> r).Yields P := by
  rw [seqRight_eq_bind]
  exact yields_of_bind fun _ => hr

theorem yields_manyWithin (hr : r.Yields P) (bound : List Char) :
    (manyWithin r bound).Yields fun as => ∀ a ∈ as, P a := by
  induction bound with
  | nil => exact yields_pure (by simp)
  | cons c bound ih =>
    intro s as rest h
    simp only [manyWithin] at h
    split at h
    · cases h
      simp
    · next a s' ha =>
      obtain ⟨⟨others, s''⟩, hothers, he⟩ := Option.map_eq_some_iff.mp h
      cases he
      exact List.forall_mem_cons.mpr ⟨hr ha, ih hothers⟩

theorem yields_many (hr : r.Yields P) : (many r).Yields fun as => ∀ a ∈ as, P a := by
  intro s as rest h
  exact yields_manyWithin hr s h

theorem yields_separated {separator : Reader β} (hr : r.Yields P) :
    (separated r separator).Yields fun as => ∀ a ∈ as, P a := by
  refine yields_bind hr fun a ha => yields_bind (yields_many (yields_seqRight hr)) ?_
  intro others hothers
  exact yields_pure (List.forall_mem_cons.mpr ⟨ha, hothers⟩)

/-- None at all is none that lacks the property. -/
theorem yields_optional_separated {u : Reader β} (hr : r.Yields P) :
    (optional (separated r u)).Yields fun as => ∀ a ∈ as.getD [], P a :=
  yields_orElse (yields_map (yields_separated hr) fun _ has => has) (yields_pure nofun)

end Reader

namespace Toml

inductive Value.Distinct : Value → Prop where
  | string (s : String) : Distinct (.string s)
  | integer (n : Int) : Distinct (.integer n)
  | float (text : List Char) : Distinct (.float text)
  | boolean (b : Bool) : Distinct (.boolean b)
  | date (text : List Char) : Distinct (.date text)
  | array {items : List Value} (hitems : ∀ v ∈ items, Distinct v) : Distinct (.array items)
  | table {entries : Entries} (hkeys : (entries.map Prod.fst).Nodup)
      (hvalues : ∀ e ∈ entries, Distinct e.2) : Distinct (.table entries)

theorem Value.Distinct.keys {entries : Entries} (h : (Value.table entries).Distinct) :
    (entries.map Prod.fst).Nodup := by
  cases h with
  | table hkeys hvalues => exact hkeys

theorem Value.Distinct.value {entries : Entries} (h : (Value.table entries).Distinct)
    {key : String} {v : Value} (hv : (key, v) ∈ entries) : v.Distinct := by
  cases h with
  | table hkeys hvalues => exact hvalues _ hv

inductive Item.Distinct : Item → Prop where
  | value {v : Value} (hv : v.Distinct) : Distinct (.value v)
  | table {origin : Origin} {items : Items} (hkeys : (items.map Prod.fst).Nodup)
      (hitems : ∀ e ∈ items, Distinct e.2) : Distinct (.table origin items)
  | rows {tables : List Items} (hkeys : ∀ items ∈ tables, (items.map Prod.fst).Nodup)
      (hitems : ∀ items ∈ tables, ∀ e ∈ items, Distinct e.2) : Distinct (.rows tables)

namespace Items

variable {items : Items} {item : Item} {key : String} {origin : Origin} {tables : List Items}

structure Distinct (items : Items) : Prop where
  keys : (items.map Prod.fst).Nodup
  items : ∀ e ∈ items, e.2.Distinct

def Keeps (f : Items → Option Items) : Prop :=
  ∀ ⦃items result : Items⦄, Distinct items → f items = some result → Distinct result

theorem distinct_nil : Distinct [] := ⟨List.nodup_nil, nofun⟩

theorem distinct_table_iff : (Item.table origin items).Distinct ↔ Distinct items := by
  constructor
  · intro h
    cases h with
    | table hkeys hitems => exact ⟨hkeys, hitems⟩
  · intro h
    exact .table h.keys h.items

theorem distinct_rows_iff : (Item.rows tables).Distinct ↔ ∀ items ∈ tables, Distinct items := by
  constructor
  · intro h items hmem
    cases h with
    | rows hkeys hitems => exact ⟨hkeys items hmem, hitems items hmem⟩
  · intro h
    exact .rows (fun items hmem => (h items hmem).keys) fun items hmem => (h items hmem).items

theorem Distinct.of_lookup (h : Distinct items) (hl : items.lookup key = some item) :
    item.Distinct := by
  obtain ⟨front, back, rfl, -⟩ := List.lookup_eq_some_iff.mp hl
  exact h.items (key, item) (by simp)

theorem Distinct.add (h : Distinct items) (hl : items.lookup key = none) (hi : item.Distinct) :
    Distinct (items.add key item) := by
  have hnew : key ∉ items.map Prod.fst := by
    intro hmem
    obtain ⟨e, he, rfl⟩ := List.mem_map.mp hmem
    have hne := List.lookup_eq_none_iff.mp hl e he
    simp at hne
  constructor
  · rw [Items.add, List.map_append, List.map_singleton, List.nodup_append]
    refine ⟨h.keys, by simp, ?_⟩
    intro other hother same hsame heq
    rw [heq, List.mem_singleton.mp hsame] at hother
    exact hnew hother
  · intro e he
    obtain he | he := List.mem_append.mp he
    · exact h.items e he
    · rw [List.mem_singleton.mp he]
      exact hi

theorem Distinct.replace (h : Distinct items) (hi : item.Distinct) :
    Distinct (items.replace key item) := by
  have hkeys : (items.replace key item).map Prod.fst = items.map Prod.fst := by
    rw [Items.replace, List.map_map]
    refine List.map_congr_left fun e he => ?_
    by_cases hk : e.1 = key <;> simp [hk]
  constructor
  · rw [hkeys]
    exact h.keys
  · intro e he
    obtain ⟨old, hold, rfl⟩ := List.mem_map.mp he
    by_cases hk : old.1 = key
    · simpa [hk] using hi
    · simpa [hk] using h.items old hold

theorem distinct_inLast {f : Items → Option Items} (hf : Keeps f) {result : List Items}
    (h : ∀ items ∈ tables, Distinct items) (hr : inLast f tables = some result) :
    ∀ items ∈ result, Distinct items := by
  obtain ⟨last, hlast, hr⟩ := Option.bind_eq_some_iff.mp hr
  obtain ⟨changed, hchanged, hr⟩ := Option.bind_eq_some_iff.mp hr
  cases hr
  intro items hmem
  obtain hmem | hmem := List.mem_append.mp hmem
  · exact h items (List.dropLast_subset tables hmem)
  · rw [List.mem_singleton.mp hmem]
    exact hf (h last (List.mem_of_getLast? hlast)) hchanged

section nested

variable {f : Items → Option Items} {result : Items}

theorem Keeps.add_table (hf : Keeps f) (h : Distinct items) (hl : items.lookup key = none)
    (hr : (do return items.add key (.table origin (← f [])) : Option Items) = some result) :
    Distinct result := by
  obtain ⟨inner, hinner, hr⟩ := Option.bind_eq_some_iff.mp hr
  cases hr
  exact h.add hl (distinct_table_iff.mpr (hf distinct_nil hinner))

theorem Keeps.replace_table {old : Items} (hf : Keeps f) (h : Distinct items)
    (hl : items.lookup key = some (.table origin old))
    (hr : (do return items.replace key (.table origin (← f old)) : Option Items) = some result) :
    Distinct result := by
  obtain ⟨inner, hinner, hr⟩ := Option.bind_eq_some_iff.mp hr
  cases hr
  have hold := distinct_table_iff.mp (h.of_lookup hl)
  exact h.replace (distinct_table_iff.mpr (hf hold hinner))

theorem Keeps.replace_rows (hf : Keeps f) (h : Distinct items)
    (hl : items.lookup key = some (.rows tables))
    (hr : (do return items.replace key (.rows (← inLast f tables)) : Option Items) = some result) :
    Distinct result := by
  obtain ⟨changed, hchanged, hr⟩ := Option.bind_eq_some_iff.mp hr
  cases hr
  have hold := distinct_rows_iff.mp (h.of_lookup hl)
  exact h.replace (distinct_rows_iff.mpr (distinct_inLast hf hold hchanged))

end nested

theorem keeps_descend {f : Items → Option Items} (hf : Keeps f) (path : List String) :
    Keeps (descend f path) := by
  induction path with
  | nil => exact hf
  | cons key path ih =>
    intro items result h hr
    rw [descend] at hr
    split at hr
    · next hl => exact ih.add_table h hl hr
    · next hl => exact ih.replace_table h hl hr
    · next hl => exact ih.replace_rows h hl hr
    · cases hr

theorem keeps_assign {v : Value} (hv : v.Distinct) (path : List String) :
    Keeps (assign v path) := by
  induction path with
  | nil =>
    intro items result h hr
    cases hr
  | cons key path ih =>
    intro items result h hr
    cases path with
    | nil =>
      rw [assign] at hr
      split at hr
      · cases hr
      · next hl =>
        cases hr
        exact h.add (Option.not_isSome_iff_eq_none.mp hl) (.value hv)
    | cons next path =>
      rw [assign.eq_3 v items key (next :: path) (by simp)] at hr
      split at hr
      · next hl => exact ih.add_table h hl hr
      · next hl =>
        split at hr
        · exact ih.replace_table h hl hr
        · cases hr
      · next hl =>
        split at hr
        · cases hr
        · exact ih.replace_rows h hl hr
      · cases hr

theorem keeps_openTable (key : String) : Keeps (openTable key) := by
  intro items result h hr
  rw [openTable] at hr
  split at hr
  · next hl =>
    cases hr
    exact h.add hl (distinct_table_iff.mpr distinct_nil)
  · next inner hl =>
    cases hr
    exact h.replace (distinct_table_iff.mpr (distinct_table_iff.mp (h.of_lookup hl)))
  · cases hr

theorem keeps_openRow (key : String) : Keeps (openRow key) := by
  intro items result h hr
  rw [openRow] at hr
  split at hr
  · next hl =>
    cases hr
    refine h.add hl (distinct_rows_iff.mpr ?_)
    simpa using distinct_nil
  · next tables hl =>
    cases hr
    refine h.replace (distinct_rows_iff.mpr ?_)
    intro items hmem
    obtain hmem | hmem := List.mem_append.mp hmem
    · exact distinct_rows_iff.mp (h.of_lookup hl) items hmem
    · rw [List.mem_singleton.mp hmem]
      exact distinct_nil
  · cases hr

end Items

theorem map_fst_finishItems (items : Items) :
    (finishItems items).map Prod.fst = items.map Prod.fst := by
  induction items with
  | nil => rfl
  | cons e items ih => rw [finishItems, List.map_cons, List.map_cons, ih]

theorem mem_finishItems {items : Items} {e : String × Value} (he : e ∈ finishItems items) :
    ∃ old ∈ items, e.2 = old.2.finish := by
  induction items with
  | nil => cases he
  | cons old items ih =>
    rw [finishItems] at he
    obtain rfl | he := List.mem_cons.mp he
    · exact ⟨old, List.mem_cons_self, rfl⟩
    · obtain ⟨other, hother, heq⟩ := ih he
      exact ⟨other, List.mem_cons_of_mem old hother, heq⟩

theorem mem_finishRows {tables : List Items} {v : Value} (hv : v ∈ finishRows tables) :
    ∃ items ∈ tables, v = .table (finishItems items) := by
  induction tables with
  | nil => cases hv
  | cons items tables ih =>
    rw [finishRows] at hv
    obtain rfl | hv := List.mem_cons.mp hv
    · exact ⟨items, List.mem_cons_self, rfl⟩
    · obtain ⟨others, hothers, heq⟩ := ih hv
      exact ⟨others, List.mem_cons_of_mem items hothers, heq⟩

theorem distinct_finish {item : Item} (h : item.Distinct) : item.finish.Distinct := by
  induction h with
  | value hv => exact hv
  | @table origin items hkeys hitems ih =>
    rw [Item.finish]
    refine .table (by rwa [map_fst_finishItems]) fun e he => ?_
    obtain ⟨old, hold, heq⟩ := mem_finishItems he
    rw [heq]
    exact ih old hold
  | @rows tables hkeys hitems ih =>
    rw [Item.finish]
    refine .array fun v hv => ?_
    obtain ⟨items, hmem, rfl⟩ := mem_finishRows hv
    refine .table (by rw [map_fst_finishItems]; exact hkeys items hmem) fun e he => ?_
    obtain ⟨old, hold, heq⟩ := mem_finishItems he
    rw [heq]
    exact ih items hmem old hold

theorem distinct_finishItems {items : Items} (h : Items.Distinct items) :
    (Value.table (finishItems items)).Distinct := by
  have htable : (Item.table .header items).Distinct := Items.distinct_table_iff.mpr h
  have hfinish := distinct_finish htable
  rwa [Item.finish] at hfinish

section readers

open Reader

theorem yields_integerInRange (n : Int) : (integerInRange n).Yields Value.Distinct :=
  yields_ite (yields_pure (.integer n)) yields_refuse

theorem yields_number : number.Yields Value.Distinct := by
  have hdate : date.Yields Value.Distinct := by
    intro s v rest h
    obtain ⟨_, _, he⟩ := Option.map_eq_some_iff.mp h
    cases he
    exact .date _
  have hfloat : float.Yields Value.Distinct := by
    refine yields_of_bind fun sign => yields_orElse (yields_orElse ?_ ?_) ?_
    · exact yields_seqRight (yields_pure (.float _))
    · exact yields_seqRight (yields_pure (.float _))
    · refine yields_of_bind fun whole => yields_of_bind fun fraction => yields_of_bind fun exp => ?_
      have htext (cs : List Char) : (pure (.float cs) : Reader Value).Yields Value.Distinct :=
        yields_pure (.float cs)
      exact yields_ite
        (yields_of_bind fun _ => yields_ite (yields_of_bind fun _ => htext _) (htext _))
        (yields_ite (yields_of_bind fun _ => htext _) (htext _))
  have hbased (mark : String) (base : Nat) (isDigit : Char → Bool) :
      (based mark base isDigit).Yields Value.Distinct :=
    yields_of_bind fun _ => yields_of_bind fun _ => yields_integerInRange _
  have hdecimal : decimal.Yields Value.Distinct :=
    yields_of_bind fun _ => yields_of_bind fun _ => yields_integerInRange _
  have hinteger : integer.Yields Value.Distinct :=
    yields_orElse (hbased ..) (yields_orElse (hbased ..) (yields_orElse (hbased ..) hdecimal))
  exact yields_orElse hdate (yields_orElse hfloat hinteger)

theorem yields_atom : atom.Yields Value.Distinct := by
  have hstring : (Value.string <$> string).Yields Value.Distinct :=
    yields_map (yields_trivial _) fun s _ => .string s
  have hboolean : boolean.Yields Value.Distinct :=
    yields_orElse (yields_seqRight (yields_pure (.boolean true)))
      (yields_seqRight (yields_pure (.boolean false)))
  exact yields_orElse hstring (yields_orElse hboolean yields_number)

variable {r : Reader Value}

theorem yields_array (hr : r.Yields Value.Distinct) : (array r).Yields Value.Distinct := by
  have hitems := yields_optional_separated (u := char ',')
    (yields_seqLeft (u := blankLines) (yields_seqRight (u := blankLines) hr))
  refine yields_of_bind fun _ => yields_bind hitems fun items h => ?_
  have hend : (do blankLines; char ']'; return .array (items.getD []) : Reader Value).Yields
      Value.Distinct :=
    yields_of_bind fun _ => yields_of_bind fun _ => yields_pure (.array h)
  exact yields_ite (yields_of_bind fun _ => hend) hend

theorem yields_pair (hr : r.Yields Value.Distinct) : (pair r).Yields fun p => p.2.Distinct :=
  yields_of_bind fun _ => yields_of_bind fun _ => yields_of_bind fun _ =>
    yields_bind hr fun _ hv => yields_pure hv

/-- Pairs are taken in one after the other. -/
theorem keeps_assignAll {pairs : List (List String × Value)} (h : ∀ p ∈ pairs, p.2.Distinct) :
    Items.Keeps fun items =>
      pairs.foldlM (fun items (keys, v) => Items.assign v keys items) items := by
  induction pairs with
  | nil =>
    intro items result hitems hr
    cases hr
    exact hitems
  | cons p pairs ih =>
    rw [List.forall_mem_cons] at h
    intro items result hitems hr
    obtain ⟨next, hnext, hr⟩ := Option.bind_eq_some_iff.mp hr
    exact ih h.2 (Items.keeps_assign h.1 p.1 hitems hnext) hr

theorem yields_inlineTable (hr : r.Yields Value.Distinct) :
    (inlineTable r).Yields Value.Distinct := by
  have hpairs := yields_optional_separated (u := char ',')
    (yields_seqLeft (u := blanks) (yields_pair hr))
  refine yields_of_bind fun _ => yields_bind hpairs fun pairs h => ?_
  refine yields_of_bind fun _ => yields_of_bind fun _ => ?_
  split
  · next items hitems =>
    exact yields_pure (distinct_finishItems (keeps_assignAll h Items.distinct_nil hitems))
  · exact yields_refuse

theorem yields_value (depth : Nat) : (value depth).Yields Value.Distinct := by
  induction depth with
  | zero => exact yields_atom
  | succ depth ih =>
    exact yields_orElse (yields_array ih) (yields_orElse (yields_inlineTable ih) yields_atom)

def Line.Distinct : Line → Prop
  | .assignment _ v => v.Distinct
  | _ => True

theorem yields_documentLine : documentLine.Yields Line.Distinct := by
  have hheader (opening closing : String) (make : List String → Line)
      (hmake : ∀ path, (make path).Distinct) :
      (make <$> bracketed opening closing).Yields Line.Distinct :=
    yields_map (yields_trivial _) fun path _ => hmake path
  have hrow := hheader "[[" "]]" .rowHeader fun _ => trivial
  have htable := hheader "[" "]" .header fun _ => trivial
  have hpair : ((fun p => Line.assignment p.1 p.2) <$> pair (value (depthLimit - 1))).Yields
      Line.Distinct :=
    yields_map (yields_pair (yields_value (depthLimit - 1))) fun _ hv => hv
  have hblank : (pure .blank : Reader Line).Yields Line.Distinct := yields_pure trivial
  have hline := yields_orElse hrow (yields_orElse htable (yields_orElse hpair hblank))
  exact yields_of_bind fun _ => yields_bind hline fun _ h => yields_of_bind fun _ => yields_pure h

theorem yields_lines : lines.Yields fun lines => ∀ line ∈ lines, line.Distinct := by
  refine yields_bind (yields_many (yields_seqLeft yields_documentLine)) fun front hfront => ?_
  refine yields_bind yields_documentLine fun last hlast => yields_pure ?_
  exact List.forall_mem_append.mpr ⟨hfront, by simpa using hlast⟩

end readers

namespace Draft

variable {d result : Draft}

theorem distinct_add {line : Line} (hline : line.Distinct) (h : Items.Distinct d.items)
    (hr : d.add line = some result) : Items.Distinct result.items := by
  cases line with
  | blank =>
    cases hr
    exact h
  | header path =>
    obtain ⟨key, -, hr⟩ := Option.bind_eq_some_iff.mp hr
    obtain ⟨items, hitems, hr⟩ := Option.bind_eq_some_iff.mp hr
    cases hr
    exact Items.keeps_descend (Items.keeps_openTable key) _ h hitems
  | rowHeader path =>
    obtain ⟨key, -, hr⟩ := Option.bind_eq_some_iff.mp hr
    obtain ⟨items, hitems, hr⟩ := Option.bind_eq_some_iff.mp hr
    cases hr
    exact Items.keeps_descend (Items.keeps_openRow key) _ h hitems
  | assignment keys v =>
    obtain ⟨items, hitems, hr⟩ := Option.bind_eq_some_iff.mp hr
    cases hr
    exact Items.keeps_descend (Items.keeps_assign hline keys) _ h hitems

theorem distinct_addAll {lines : List Line} (hlines : ∀ line ∈ lines, line.Distinct)
    (h : Items.Distinct d.items) (hr : lines.foldlM add d = some result) :
    Items.Distinct result.items := by
  induction lines generalizing d with
  | nil =>
    cases hr
    exact h
  | cons line lines ih =>
    rw [List.forall_mem_cons] at hlines
    obtain ⟨next, hnext, hr⟩ := Option.bind_eq_some_iff.mp hr
    exact ih hlines.2 (distinct_add hlines.1 h hnext) hr

end Draft

/-- What a text describes is a table, and in it no table gives a key twice. -/
theorem exists_table_of_parse? {text : String} {tree : Value} (h : parse? text = some tree) :
    ∃ entries, tree = .table entries ∧ tree.Distinct := by
  obtain ⟨⟨lines, rest⟩, hlines, h⟩ := Option.bind_eq_some_iff.mp h
  obtain ⟨draft, hdraft, h⟩ := Option.bind_eq_some_iff.mp h
  cases h
  have hd := Draft.distinct_addAll (Reader.yields_seqLeft yields_lines hlines) Items.distinct_nil
    hdraft
  exact ⟨_, rfl, distinct_finishItems hd⟩

end Toml
end Argon2Native
