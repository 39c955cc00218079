import Argon2Native.Path
import Mathlib.Data.List.TakeWhile
/-!
The names in a path, and the names in the paths above it. Going to the parent takes the last name
away and keeps the text before it, so the ancestors of a path go through every beginning of its
names, the longest first.

Main statements: `exists_ancestor_names` and `pairwise_ancestors`.
-/
namespace Argon2Native.Path

theorem prefix_dropLast_of_ne {α : Type} {front all : List α} (h : front <+: all)
    (hne : front ≠ all) : front <+: all.dropLast := by
  obtain rfl | ⟨init, last, rfl⟩ := List.eq_nil_or_concat all
  · exact absurd (List.prefix_nil.mp h) hne
  · rw [List.concat_eq_append] at h hne ⊢
    rw [List.dropLast_concat]
    exact (List.prefix_concat_iff.mp h).resolve_left hne

theorem not_names_iff {piece : Bytes} : ¬Names piece ↔ piece = [] ∨ piece = [dot] := by
  rw [Names, not_and_or, not_not, not_not]

def namesIn (octets : Bytes) : List Bytes := (octets.splitOn slash).filter (Names ·)

def names (p : Path) : List Bytes := namesIn p.octets

theorem namesIn_append_slash (xs ys : Bytes) :
    namesIn (xs ++ slash :: ys) = namesIn xs ++ namesIn ys := by
  rw [namesIn, List.splitOn_append_cons_self, List.filter_append]
  rfl

theorem namesIn_nil : namesIn [] = [] := by decide

theorem namesIn_dot : namesIn [dot] = [] := by decide

theorem namesIn_slash_end (xs : Bytes) : namesIn (xs ++ [slash]) = namesIn xs := by
  rw [namesIn_append_slash, namesIn_nil, List.append_nil]

theorem namesIn_of_slash_notMem {word : Bytes} (hs : slash ∉ word) (hn : Names word) :
    namesIn word = [word] := by
  rw [namesIn, List.splitOn_eq_singleton hs, List.filter_cons_of_pos (by simpa using hn),
    List.filter_nil]

section trimEnd

variable (backwards : Bytes)

theorem trimEnd_suffix : trimEnd backwards <:+ backwards := by
  fun_induction trimEnd backwards with
  | case1 b c rest h ih => exact ih.trans (List.suffix_cons b _)
  | case2 => exact List.suffix_rfl
  | case3 => exact List.suffix_rfl

/-- Of an absolute path, the slash at the front stays. -/
theorem getLast?_trimEnd : (trimEnd backwards).getLast? = backwards.getLast? := by
  fun_induction trimEnd backwards with
  | case1 b c rest h ih => rw [ih, List.getLast?_cons_cons]
  | case2 => rfl
  | case3 => rfl

theorem namesIn_trimEnd : namesIn (trimEnd backwards).reverse = namesIn backwards.reverse := by
  fun_induction trimEnd backwards with
  | case1 b c rest h ih =>
    rw [ih, List.reverse_cons (a := b)]
    obtain rfl | ⟨rfl, rfl⟩ := h
    · rw [namesIn_slash_end]
    · rw [List.reverse_cons, namesIn_slash_end, List.append_assoc, List.singleton_append,
        namesIn_append_slash, namesIn_dot, List.append_nil]
  | case2 => rfl
  | case3 => rfl

variable {backwards}

/-- What is left ends in a name, unless it is no more than one octet. -/
theorem not_nameless_of_trimEnd {b c : UInt8} {rest : Bytes}
    (h : trimEnd backwards = b :: c :: rest) : ¬(b = slash ∨ b = dot ∧ c = slash) := by
  fun_induction trimEnd backwards with
  | case1 b' c' rest' hb ih => exact ih h
  | case2 b' c' rest' hb =>
    cases h
    exact hb
  | case3 short hshort => exact absurd h (hshort b c rest)

end trimEnd

section dropName?

variable {backwards up : Bytes}

/-- A name is taken away from the end as far as the slash before it, and the slash goes if it names
nothing there. -/
theorem exists_word_of_dropName? (h : dropName? backwards = some up) :
    ∃ word above, trimEnd backwards = word ++ above ∧ word ≠ [] ∧ slash ∉ word ∧
      (above = [] ∨ ∃ rest, above = slash :: rest) ∧ up = trimEnd above := by
  unfold dropName? at h
  split at h
  · cases h
  · next b rest hb =>
    split at h
    · cases h
    · next hslash =>
      cases h
      refine ⟨b :: rest.takeWhile (· ≠ slash), rest.dropWhile (· ≠ slash), ?_, by simp, ?_, ?_, rfl⟩
      · rw [hb, List.cons_append, List.takeWhile_append_dropWhile]
      · have htake : slash ∉ rest.takeWhile (· ≠ slash) := fun hmem => by
          simpa using List.mem_takeWhile_imp hmem
        simpa [Ne.symm hslash] using htake
      · cases hd : rest.dropWhile (· ≠ slash) with
        | nil => exact .inl rfl
        | cons c above =>
          have hc := List.head?_dropWhile_not (· ≠ slash) rest
          rw [hd] at hc
          exact .inr ⟨above, by rw [show c = slash by simpa using hc]⟩

theorem suffix_of_dropName? (h : dropName? backwards = some up) : up <:+ backwards := by
  obtain ⟨word, above, htrim, -, -, -, rfl⟩ := exists_word_of_dropName? h
  have habove : above <:+ trimEnd backwards := htrim ▸ List.suffix_append word above
  exact (trimEnd_suffix above).trans (habove.trans (trimEnd_suffix backwards))

theorem getLast?_of_dropName? (h : dropName? backwards = some up) :
    up.getLast? = some slash ↔ backwards.getLast? = some slash := by
  obtain ⟨word, above, htrim, -, hs, habove, rfl⟩ := exists_word_of_dropName? h
  rw [getLast?_trimEnd, ← getLast?_trimEnd backwards, htrim]
  obtain rfl | ⟨rest, rfl⟩ := habove
  · rw [List.append_nil]
    exact ⟨nofun, fun hlast => absurd (List.mem_of_getLast? hlast) hs⟩
  · simp [List.getLast?_append]

theorem namesIn_of_dropName? (h : dropName? backwards = some up) :
    namesIn up.reverse = (namesIn backwards.reverse).dropLast := by
  obtain ⟨word, above, htrim, hne, hs, habove, rfl⟩ := exists_word_of_dropName? h
  have hsr : slash ∉ word.reverse := by simpa using hs
  rw [namesIn_trimEnd, ← namesIn_trimEnd backwards, htrim]
  obtain rfl | ⟨rest, rfl⟩ := habove
  · -- only here can what is taken away be a dot, which names nothing either
    rw [List.append_nil, List.reverse_nil, namesIn_nil, namesIn, List.splitOn_eq_singleton hsr]
    by_cases hn : Names word.reverse <;> simp [hn]
  · have hdot : word ≠ [dot] := by
      rintro rfl
      exact not_nameless_of_trimEnd htrim (.inr ⟨rfl, rfl⟩)
    have hn : Names word.reverse := ⟨by simpa using hne, fun hw => hdot (by simpa using hw)⟩
    rw [List.reverse_append, List.reverse_cons, namesIn_slash_end, List.append_assoc,
      List.singleton_append, namesIn_append_slash, namesIn_of_slash_notMem hsr hn,
      List.dropLast_concat]

theorem namesIn_of_dropName?_none (h : dropName? backwards = none) :
    namesIn backwards.reverse = [] := by
  rw [← namesIn_trimEnd]
  unfold dropName? at h
  split at h
  · next hb => rw [hb, List.reverse_nil, namesIn_nil]
  · next b rest hb =>
    split at h
    · next hslash =>
      subst hslash
      cases rest with
      | nil =>
        rw [hb]
        decide
      | cons c rest => exact absurd (.inl rfl) (not_nameless_of_trimEnd hb)
    · cases h

end dropName?

section parent?

variable {p up : Path}

theorem dropName?_of_parent? (h : p.parent? = some up) :
    dropName? p.octets.reverse = some up.octets.reverse := by
  obtain ⟨backwards, hd, rfl⟩ := Option.map_eq_some_iff.mp h
  rw [hd, ofBackwards, List.reverse_reverse]

theorem names_of_parent? (h : p.parent? = some up) : up.names = p.names.dropLast := by
  have hnames := namesIn_of_dropName? (dropName?_of_parent? h)
  rwa [List.reverse_reverse, List.reverse_reverse] at hnames

theorem names_of_no_parent (h : p.parent? = none) : p.names = [] := by
  have hnames := namesIn_of_dropName?_none (Option.map_eq_none_iff.mp h)
  rwa [List.reverse_reverse] at hnames

theorem prefix_of_parent? (h : p.parent? = some up) : up.octets <+: p.octets :=
  List.reverse_suffix.mp (suffix_of_dropName? (dropName?_of_parent? h))

theorem isAbsolute_of_parent? (h : p.parent? = some up) : up.isAbsolute = p.isAbsolute := by
  have hlast := getLast?_of_dropName? (dropName?_of_parent? h)
  rw [List.getLast?_reverse, List.getLast?_reverse] at hlast
  exact decide_eq_decide.mpr hlast

theorem length_of_parent? (h : p.parent? = some up) : up.octets.length < p.octets.length := by
  have hlt := length_lt_of_dropName? (dropName?_of_parent? h)
  rwa [List.length_reverse, List.length_reverse] at hlt

theorem ancestors_of_parent? (h : p.parent? = some up) : p.ancestors = p :: up.ancestors := by
  have hd := dropName?_of_parent? h
  have hup : parentsBackwards p.octets.reverse =
      up.octets.reverse :: parentsBackwards up.octets.reverse := by
    rw [parentsBackwards]
    split
    · next above habove => rw [Option.some.inj (habove.symm.trans hd)]
    · next hnone => rw [hd] at hnone; cases hnone
  rw [ancestors, hup, List.map_cons, ofBackwards, List.reverse_reverse]
  rfl

theorem ancestors_of_no_parent (h : p.parent? = none) : p.ancestors = [p] := by
  have hd := Option.map_eq_none_iff.mp h
  have hup : parentsBackwards p.octets.reverse = [] := by
    rw [parentsBackwards]
    split
    · next above habove => rw [hd] at habove; cases habove
    · rfl
  rw [ancestors, hup, List.map_nil]

/-- What holds of a path without a parent, and of every path if it holds of the parent, holds of
all paths. -/
theorem parent_induction {motive : Path → Prop} (top : ∀ p, p.parent? = none → motive p)
    (below : ∀ p up, p.parent? = some up → motive up → motive p) (p : Path) : motive p := by
  induction hn : p.octets.length using Nat.strongRecOn generalizing p with
  | ind n ih =>
    cases hp : p.parent? with
    | none => exact top p hp
    | some up => exact below p up hp (ih _ (hn ▸ length_of_parent? hp) up rfl)

end parent?

/-- A path that is `p` itself or stands above it: a beginning of its text, read from the same place,
with the first of its names. -/
structure Above (q p : Path) : Prop where
  octets : q.octets <+: p.octets
  isAbsolute : q.isAbsolute = p.isAbsolute
  names : q.names <+: p.names

theorem above_of_mem_ancestors {p q : Path} (hq : q ∈ p.ancestors) : q.Above p := by
  induction p using parent_induction with
  | top p hp =>
    rw [ancestors_of_no_parent hp, List.mem_singleton] at hq
    subst hq
    exact ⟨List.prefix_rfl, rfl, List.prefix_rfl⟩
  | below p up hp ih =>
    rw [ancestors_of_parent? hp, List.mem_cons] at hq
    obtain rfl | hq := hq
    · exact ⟨List.prefix_rfl, rfl, List.prefix_rfl⟩
    · have ha := ih hq
      have hnames : up.names <+: p.names := names_of_parent? hp ▸ List.dropLast_prefix _
      exact ⟨ha.octets.trans (prefix_of_parent? hp), ha.isAbsolute.trans (isAbsolute_of_parent? hp),
        ha.names.trans hnames⟩

/-- Every beginning of a path's names belongs to one of its ancestors. -/
theorem exists_ancestor_names {p : Path} {names : List Bytes} (h : names <+: p.names) :
    ∃ q ∈ p.ancestors, q.names = names := by
  induction p using parent_induction with
  | top p hp =>
    rw [names_of_no_parent hp, List.prefix_nil] at h
    exact ⟨p, by simp [ancestors_of_no_parent hp], by rw [h, names_of_no_parent hp]⟩
  | below p up hp ih =>
    rw [ancestors_of_parent? hp]
    by_cases hall : p.names = names
    · exact ⟨p, List.mem_cons_self, hall⟩
    · obtain ⟨q, hq, hqn⟩ := ih (names_of_parent? hp ▸ prefix_dropLast_of_ne h (Ne.symm hall))
      exact ⟨q, List.mem_cons_of_mem p hq, hqn⟩

/-- Further up there are no more names. -/
theorem pairwise_ancestors (p : Path) :
    p.ancestors.Pairwise fun q above => above.names <+: q.names := by
  induction p using parent_induction with
  | top p hp =>
    rw [ancestors_of_no_parent hp]
    exact List.pairwise_singleton _ _
  | below p up hp ih =>
    rw [ancestors_of_parent? hp, List.pairwise_cons]
    refine ⟨fun q hq => ?_, ih⟩
    have hq' : q ∈ p.ancestors := by simp [ancestors_of_parent? hp, hq]
    exact (above_of_mem_ancestors hq').names

/-- What a search up the ancestors finds first has at least the names of whatever else it could
find. -/
theorem names_prefix_of_find? {p q r : Path} {holds : Path → Bool}
    (hq : p.ancestors.find? holds = some q) (hr : r ∈ p.ancestors) (hh : holds r = true) :
    r.names <+: q.names := by
  obtain ⟨-, before, after, heq, hbefore⟩ := List.find?_eq_some_iff_append.mp hq
  have hpairs := pairwise_ancestors p
  rw [heq, List.pairwise_append, List.pairwise_cons] at hpairs
  rw [heq, List.mem_append, List.mem_cons] at hr
  obtain hr | rfl | hr := hr
  · have hnot := hbefore r hr
    rw [hh] at hnot
    cases hnot
  · exact List.prefix_rfl
  · exact hpairs.2.1.1 r hr

section join

variable {file : Path}

/-- A slash goes between two relative parts unless it is there, or nothing is before it. -/
theorem octets_join (hf : file.isAbsolute = false) (p : Path) :
    p.octets = [] ∧ (p.join file).octets = file.octets ∨
      (∃ front, p.octets = front ++ [slash] ∧
        (p.join file).octets = front ++ slash :: file.octets) ∨
      p.octets ≠ [] ∧ (p.join file).octets = p.octets ++ slash :: file.octets := by
  simp only [join, hf, Bool.false_eq_true, if_false]
  split
  · next h =>
    obtain hempty | hlast := h
    · exact .inl ⟨hempty, by rw [hempty, List.nil_append]⟩
    · obtain ⟨front, hfront⟩ := List.getLast?_eq_some_iff.mp hlast
      exact .inr (.inl ⟨front, hfront, by rw [hfront, List.append_assoc, List.singleton_append]⟩)
  · next h => exact .inr (.inr ⟨(not_or.mp h).1, rfl⟩)

theorem isAbsolute_join (hf : file.isAbsolute = false) (p : Path) :
    (p.join file).isAbsolute = p.isAbsolute := by
  obtain ⟨hp, hj⟩ | ⟨front, hp, hj⟩ | ⟨hp, hj⟩ := octets_join hf p
  · rw [isAbsolute, hj, ← isAbsolute, hf, isAbsolute, hp]
    rfl
  · rw [isAbsolute, isAbsolute, hj, hp]
    cases front <;> rfl
  · rw [isAbsolute, isAbsolute, hj, List.head?_append, List.head?_eq_some_head hp]
    rfl

/-- The pieces of a path in a directory are those of the directory, as far as they name something,
and its own. -/
theorem splitOn_join (hf : slash ∉ file.octets) (p : Path) :
    ∃ before, (p.join file).octets.splitOn slash = before ++ [file.octets] ∧
      before.filter (Names ·) = p.names := by
  have hrelative : file.isAbsolute = false := by
    refine decide_eq_false fun h => hf ?_
    exact List.mem_of_head? h
  have hone : file.octets.splitOn slash = [file.octets] := List.splitOn_eq_singleton hf
  obtain ⟨hp, hj⟩ | ⟨front, hp, hj⟩ | ⟨-, hj⟩ := octets_join hrelative p
  · exact ⟨[], by rw [hj, hone, List.nil_append], by rw [names, hp, namesIn_nil, List.filter_nil]⟩
  · exact ⟨front.splitOn slash, by rw [hj, List.splitOn_append_cons_self, hone],
      by rw [names, hp, namesIn_slash_end, namesIn]⟩
  · exact ⟨p.octets.splitOn slash, by rw [hj, List.splitOn_append_cons_self, hone], rfl⟩

theorem names_join (hs : slash ∉ file.octets) (hn : Names file.octets) (p : Path) :
    (p.join file).names = p.names ++ [file.octets] := by
  obtain ⟨before, hpieces, hbefore⟩ := splitOn_join hs p
  rw [names, namesIn, hpieces, List.filter_append, hbefore,
    List.filter_cons_of_pos (by simpa using hn), List.filter_nil]

theorem length_join (hf : file.isAbsolute = false) (p : Path) :
    p.octets.length + file.octets.length ≤ (p.join file).octets.length ∧
      (p.join file).octets.length ≤ p.octets.length + 1 + file.octets.length := by
  obtain ⟨hp, hj⟩ | ⟨front, hp, hj⟩ | ⟨-, hj⟩ := octets_join hf p
  · rw [hj, hp, List.length_nil]
    omega
  · rw [hj, hp, List.length_append, List.length_append, List.length_singleton, List.length_cons]
    omega
  · rw [hj, List.length_append, List.length_cons]
    omega

/-- Further up, the path of a file of the same name is no longer. -/
theorem length_join_of_prefix (hf : file.isAbsolute = false) {p q : Path}
    (h : q.octets <+: p.octets) : (q.join file).octets.length ≤ (p.join file).octets.length := by
  by_cases hsame : q.octets = p.octets
  · rw [show q = p from congrArg Path.mk hsame]
  · have hlt : q.octets.length < p.octets.length :=
      Nat.lt_of_le_of_ne h.length_le fun hlen => hsame (h.eq_of_length hlen)
    have hq := (length_join hf q).2
    have hp := (length_join hf p).1
    omega

end join

end Argon2Native.Path
