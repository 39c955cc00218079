import Argon2Native.Proofs.Ancestors
import Argon2Native.Proofs.Loaded
import Mathlib.Data.List.Induction
/-!
The project file and the tree. A path without `..` goes down by its names, so the search along the
text of such a path goes through the directories above the one it leads to, and ends at the nearest
that holds a project file. With `..`, what the text says before it is a directory beside or below.

Main statements: `loadDirectory_nearest`, and `loadDirectory_not_nearest` for the paths that it
leaves out.
-/
namespace Argon2Native

open Argon2Native.Path (Names)

def Entry.isRegular : Entry → Bool
  | .directory _ => false
  | .file _ | .library _ => true

namespace FileTree

variable (t : FileTree)

theorem cursor_concat (location : Location) (name : Bytes) :
    t.cursor (location ++ [name]) = (t.cursor location).down name := by
  rw [cursor, List.foldl_concat]
  rfl

theorem location_cursor (location : Location) : (t.cursor location).location = location := by
  induction location using List.reverseRecOn with
  | nil => rfl
  | append_singleton location name ih =>
    rw [cursor_concat, Cursor.location, Cursor.down, List.map_cons, List.reverse_cons]
    exact congrArg (· ++ [name]) ih

def IsDirectory (location : Location) : Prop :=
  ∃ entries, t.entry? location = some (.directory entries)

variable {t}

/-- Nothing stands anywhere but in a directory. -/
theorem isDirectory_of_holds {location : Location} {name : Bytes} {entry : Entry}
    (h : t.entry? (location ++ [name]) = some entry) : t.IsDirectory location := by
  rw [ entry?, cursor_concat, Cursor.down, Cursor.entries] at h
  unfold IsDirectory entry?
  split at h
  · next entries he => exact ⟨entries, he⟩
  · cases h

theorem isDirectory_of_append {location below : Location} (h : t.IsDirectory (location ++ below)) :
    t.IsDirectory location := by
  induction below using List.reverseRecOn with
  | nil => rwa [List.append_nil] at h
  | append_singleton below name ih =>
    obtain ⟨entries, he⟩ := h
    rw [← List.append_assoc] at he
    exact ih (isDirectory_of_holds he)

section walk

variable {location : Location} {c : Cursor}

/-- One piece further, a name is added to the location, or nothing is. -/
theorem step_cursor {piece : Bytes} (hup : piece ≠ [Path.dot, Path.dot])
    (hd : t.IsDirectory location) (hlen : piece.length ≤ Cursor.mostInName) :
    (t.cursor location).step piece =
      .ok (t.cursor (location ++ [piece].filter (Names ·))) := by
  obtain ⟨entries, he⟩ := hd
  rw [ entry?] at he
  simp only [Cursor.step, he]
  by_cases hn : Names piece
  · have hstay : ¬(piece = [] ∨ piece = [Path.dot]) := fun h => h.elim hn.1 hn.2
    rw [if_neg hstay, if_neg hup, if_neg (Nat.not_lt.mpr hlen),
      List.filter_cons_of_pos (by simpa using hn), List.filter_nil, cursor_concat]
  · rw [if_pos (Path.not_names_iff.mp hn), List.filter_cons_of_neg (by simpa using hn),
      List.filter_nil, List.append_nil]

theorem step_eq_ok {piece : Bytes} (hup : piece ≠ [Path.dot, Path.dot])
    (h : (t.cursor location).step piece = .ok c) :
    piece.length ≤ Cursor.mostInName ∧ c = t.cursor (location ++ [piece].filter (Names ·)) := by
  have hok := h
  unfold Cursor.step at h
  split at h
  · cases h
  · next entries he =>
    have hlen : piece.length ≤ Cursor.mostInName := by
      split at h
      · next hstay =>
        obtain rfl | rfl := hstay <;> decide
      · split at h
        · cases h
        · omega
    rw [step_cursor hup ⟨entries, he⟩ hlen] at hok
    exact ⟨hlen, (Except.ok.inj hok).symm⟩
  · cases h

/-- Where the names of all pieces lead to a directory, there are directories on all the way. -/
theorem walk_cursor {pieces : List Bytes} (hup : [Path.dot, Path.dot] ∉ pieces)
    (hlen : ∀ piece ∈ pieces, piece.length ≤ Cursor.mostInName)
    (hd : t.IsDirectory (location ++ pieces.filter (Names ·))) :
    pieces.foldlM Cursor.step (t.cursor location) =
      .ok (t.cursor (location ++ pieces.filter (Names ·))) := by
  induction pieces generalizing location with
  | nil =>
    rw [List.filter_nil, List.append_nil]
    rfl
  | cons piece pieces ih =>
    rw [List.mem_cons, not_or] at hup
    rw [List.forall_mem_cons] at hlen
    have hsplit : location ++ (piece :: pieces).filter (Names ·) =
        location ++ [piece].filter (Names ·) ++ pieces.filter (Names ·) := by
      rw [List.append_assoc, ← List.filter_append, List.singleton_append]
    rw [hsplit] at hd ⊢
    -- the end of the way is below every step of it
    have hfirst : t.IsDirectory location := isDirectory_of_append (isDirectory_of_append hd)
    rw [List.foldlM_cons, step_cursor (Ne.symm hup.1) hfirst hlen.1]
    exact ih hup.2 hlen.2 hd

theorem walk_eq_ok {pieces : List Bytes} (hup : [Path.dot, Path.dot] ∉ pieces)
    (h : pieces.foldlM Cursor.step (t.cursor location) = .ok c) :
    (∀ piece ∈ pieces, piece.length ≤ Cursor.mostInName) ∧
      c = t.cursor (location ++ pieces.filter (Names ·)) := by
  induction pieces generalizing location with
  | nil =>
    cases h
    simp
  | cons piece pieces ih =>
    rw [List.mem_cons, not_or] at hup
    rw [List.foldlM_cons] at h
    obtain ⟨next, hstep, hrest⟩ := bind_eq_ok_iff.mp h
    obtain ⟨hfirst, rfl⟩ := step_eq_ok (Ne.symm hup.1) hstep
    obtain ⟨hlen, rfl⟩ := ih hup.2 hrest
    refine ⟨List.forall_mem_cons.mpr ⟨hfirst, hlen⟩, ?_⟩
    rw [List.append_assoc, ← List.filter_append, List.singleton_append]

end walk

section route

variable {start location : Location} {path : Path} {c : Cursor} {entry : Entry}

theorem route_eq_ok_iff : t.route start path = .ok c ↔
    path.octets ≠ [] ∧ 0 ∉ path.octets ∧ path.octets.length ≤ mostInPath ∧
      (pieces path).foldlM Cursor.step (t.origin start path) = .ok c := by
  unfold route
  by_cases hempty : path.octets = []
  · simp [hempty, bind, Except.bind]
  by_cases hzero : 0 ∈ path.octets
  · simp [hempty, hzero, bind, Except.bind]
  by_cases hlong : mostInPath < path.octets.length
  · simp [hempty, hzero, hlong, Nat.not_le.mpr hlong, bind, Except.bind]
  · simp [hempty, hzero, hlong, Nat.not_lt.mp hlong]

theorem find_eq_ok_iff : t.find start path = .ok (location, entry) ↔
    ∃ c, t.route start path = .ok c ∧ c.entry = some entry ∧ c.location = location := by
  unfold find
  constructor
  · intro h
    obtain ⟨c, hc, h⟩ := bind_eq_ok_iff.mp h
    split at h
    · next entry' he =>
      cases h
      exact ⟨c, hc, he, rfl⟩
    · cases h
  · rintro ⟨c, hc, he, rfl⟩
    simp [hc, he, bind, Except.bind, pure, Except.pure]

def base (start : Location) (path : Path) : Location := if path.isAbsolute then [] else start

theorem origin_eq : t.origin start path = t.cursor (base start path) := by
  unfold origin base
  split <;> rfl

/-- A path without `..` whose names could all stand in a tree. -/
structure Straight (path : Path) : Prop where
  zero : 0 ∉ path.octets
  up : [Path.dot, Path.dot] ∉ path.names
  short : ∀ name ∈ path.names, name.length ≤ Cursor.mostInName

theorem up_notMem_pieces_iff :
    [Path.dot, Path.dot] ∉ pieces path ↔ [Path.dot, Path.dot] ∉ path.names := by
  have hn : Names [Path.dot, Path.dot] := by decide
  simp [Path.names, Path.namesIn, pieces, hn]

theorem Straight.piece_short (hp : Straight path) {piece : Bytes} (h : piece ∈ pieces path) :
    piece.length ≤ Cursor.mostInName := by
  by_cases hn : Names piece
  · exact hp.short piece (List.mem_filter.mpr ⟨h, by simpa using hn⟩)
  · obtain rfl | rfl := Path.not_names_iff.mp hn <;> decide

/-- What a path without `..` leads to has the names of the path. -/
theorem find_eq_ok (hup : [Path.dot, Path.dot] ∉ pieces path)
    (h : t.find start path = .ok (location, entry)) :
    Straight path ∧ path.octets.length ≤ mostInPath ∧ location = base start path ++ path.names ∧
      t.entry? location = some entry := by
  obtain ⟨c, hroute, he, rfl⟩ := find_eq_ok_iff.mp h
  obtain ⟨-, hzero, hfits, hwalk⟩ := route_eq_ok_iff.mp hroute
  rw [origin_eq] at hwalk
  obtain ⟨hlen, rfl⟩ := walk_eq_ok hup hwalk
  have hshort : ∀ name ∈ path.names, name.length ≤ Cursor.mostInName :=
    fun name hname => hlen name (List.mem_of_mem_filter hname)
  refine ⟨⟨hzero, up_notMem_pieces_iff.mp hup, hshort⟩, hfits, location_cursor t _, ?_⟩
  rw [location_cursor]
  exact he

/-- A path without `..` that ends in a name leads to what stands where its names say. -/
theorem find_eq_ok_of_holds {before : List Bytes} {name : Bytes} (hp : Straight path)
    (hfits : path.octets.length ≤ mostInPath) (hpieces : pieces path = before ++ [name])
    (hname : Names name) (he : t.entry? (base start path ++ path.names) = some entry) :
    t.find start path = .ok (base start path ++ path.names, entry) := by
  have hnames : path.names = before.filter (Names ·) ++ [name] := by
    rw [Path.names, Path.namesIn, ← pieces, hpieces, List.filter_append,
      List.filter_cons_of_pos (by simpa using hname), List.filter_nil]
  have hempty : path.octets ≠ [] := by
    intro hnil
    have hnone : path.names = [] := by rw [Path.names, hnil, Path.namesIn_nil]
    simp [hnone] at hnames
  -- before the name only a directory can stand, so the walk gets to it
  have hdirectory : t.IsDirectory (base start path ++ before.filter (Names ·)) := by
    rw [hnames, ← List.append_assoc] at he
    exact isDirectory_of_holds he
  have hwalk : (pieces path).foldlM Cursor.step (t.origin start path) =
      .ok (t.cursor (base start path ++ path.names)) := by
    have hup := up_notMem_pieces_iff.mpr hp.up
    have hshort : ∀ piece ∈ pieces path, piece.length ≤ Cursor.mostInName :=
      fun piece hpiece => hp.piece_short hpiece
    rw [hpieces, List.mem_append, not_or, List.mem_singleton] at hup
    rw [hpieces, List.forall_mem_append, List.forall_mem_singleton] at hshort
    have hstep := step_cursor (Ne.symm hup.2) hdirectory hshort.2
    rw [List.filter_cons_of_pos (by simpa using hname), List.filter_nil, List.append_assoc,
      ← hnames] at hstep
    rw [hpieces, origin_eq, List.foldlM_append, walk_cursor hup.1 hshort.1 hdirectory]
    change [name].foldlM Cursor.step _ = _
    rw [List.foldlM_cons, hstep]
    rfl
  exact find_eq_ok_iff.mpr
    ⟨_, route_eq_ok_iff.mpr ⟨hempty, hp.zero, hfits, hwalk⟩, he, location_cursor t _⟩

end route

end FileTree

namespace Config

open FileTree (Straight base pieces)

def HoldsProjectFile (tree : FileTree) (directory : Location) : Prop :=
  ∃ entry, tree.entry? (directory ++ [projectFile.octets]) = some entry ∧ entry.isRegular

section search

variable {host : Host} {start : Location} {directory q : Path}

theorem isRelative_projectFile : projectFile.isAbsolute = false := by decide

theorem slash_notMem_projectFile : Path.slash ∉ projectFile.octets := by decide

theorem names_join (q : Path) : (q.join projectFile).names = q.names ++ [projectFile.octets] :=
  Path.names_join slash_notMem_projectFile (by decide) q

theorem zero_notMem_join (hq : 0 ∉ q.octets) : 0 ∉ (q.join projectFile).octets := by
  have hfile : 0 ∉ projectFile.octets := by decide
  have hslash : (0 : UInt8) ≠ Path.slash := by decide
  obtain ⟨-, hj⟩ | ⟨front, hfront, hj⟩ | ⟨-, hj⟩ :=
    Path.octets_join isRelative_projectFile q
  · rwa [hj]
  · rw [hfront] at hq
    simp_all
  · simp_all

theorem straight_join (hq : Straight q) : Straight (q.join projectFile) where
  zero := zero_notMem_join hq.zero
  up := by
    rw [names_join, List.mem_append, not_or]
    exact ⟨hq.up, by decide⟩
  short := by
    rw [names_join, List.forall_mem_append]
    exact ⟨hq.short, by decide⟩

/-- What stands at the project file's path is what the directory holds by its name, as long as the
path is not too long. -/
theorem find_join_iff {t : FileTree} {location : Location} {entry : Entry} (hq : Straight q) :
    t.find start (q.join projectFile) = .ok (location, entry) ↔
      (q.join projectFile).octets.length ≤ FileTree.mostInPath ∧
        location = base start q ++ q.names ++ [projectFile.octets] ∧
        t.entry? location = some entry := by
  have hnames : base start (q.join projectFile) ++ (q.join projectFile).names =
      base start q ++ q.names ++ [projectFile.octets] := by
    rw [base, base, Path.isAbsolute_join isRelative_projectFile, names_join, List.append_assoc]
  have hj := straight_join hq
  constructor
  · intro h
    obtain ⟨-, hfits, hlocation, hentry⟩ :=
      FileTree.find_eq_ok (FileTree.up_notMem_pieces_iff.mpr hj.up) h
    exact ⟨hfits, hlocation.trans hnames, hentry⟩
  · rintro ⟨hfits, rfl, hentry⟩
    obtain ⟨before, hpieces, -⟩ := Path.splitOn_join slash_notMem_projectFile q
    rw [← hnames] at hentry ⊢
    exact FileTree.find_eq_ok_of_holds hj hfits hpieces (by decide) hentry

theorem isFile_iff {path : Path} : host.isFile path ↔
    ∃ location entry, host.tree.find host.workingDirectory path = .ok (location, entry) ∧
      entry.isRegular := by
  unfold Host.isFile Host.entry?
  cases host.tree.find host.workingDirectory path with
  | error e => simp [Except.map]
  | ok found =>
    obtain ⟨location, entry⟩ := found
    cases entry <;> simp [Except.map, Entry.isRegular]

theorem isFile_join_iff (hq : Straight q) : host.isFile (q.join projectFile) ↔
    (q.join projectFile).octets.length ≤ FileTree.mostInPath ∧
      HoldsProjectFile host.tree (base host.workingDirectory q ++ q.names) := by
  simp only [isFile_iff, find_join_iff hq, HoldsProjectFile]
  constructor
  · rintro ⟨_, entry, ⟨hfits, rfl, hentry⟩, hregular⟩
    exact ⟨hfits, entry, hentry, hregular⟩
  · rintro ⟨hfits, entry, hentry, hregular⟩
    exact ⟨_, entry, ⟨hfits, rfl, hentry⟩, hregular⟩

/-- The paths above a straight one are straight, and start from the same place. -/
theorem straight_of_above (ha : q.Above directory) (hd : Straight directory) : Straight q where
  zero := fun h => hd.zero (ha.octets.subset h)
  up := fun h => hd.up (ha.names.subset h)
  short := fun name h => hd.short name (ha.names.subset h)

theorem base_of_above (ha : q.Above directory) : base start q = base start directory := by
  rw [base, base, ha.isAbsolute]

/-- Of the directories from where a path starts to where it leads, the search comes to each. -/
theorem exists_ancestor_of_holds {between : Location} (hd : Straight directory)
    (hfits : (directory.join projectFile).octets.length ≤ FileTree.mostInPath)
    (hstart : base host.workingDirectory directory <+: between)
    (hend : between <+: base host.workingDirectory directory ++ directory.names)
    (hb : HoldsProjectFile host.tree between) :
    ∃ q ∈ directory.ancestors, between = base host.workingDirectory directory ++ q.names ∧
      host.isFile (q.join projectFile) := by
  obtain ⟨names, rfl⟩ := hstart
  obtain ⟨q, hq, rfl⟩ := Path.exists_ancestor_names ((List.prefix_append_right_inj _).mp hend)
  have ha := Path.above_of_mem_ancestors hq
  refine ⟨q, hq, rfl, (isFile_join_iff (straight_of_above ha hd)).mpr ⟨?_, ?_⟩⟩
  · exact (Path.length_join_of_prefix isRelative_projectFile ha.octets).trans hfits
  · rwa [base_of_above ha]

theorem projectSource_nearest {file : Path} (hd : Straight directory)
    (hsource : projectSource host directory = some file) :
    ∃ holder entry,
      host.tree.find host.workingDirectory file = .ok (holder ++ [projectFile.octets], entry) ∧
      entry.isRegular ∧ holder <+: base host.workingDirectory directory ++ directory.names ∧
      ((directory.join projectFile).octets.length ≤ FileTree.mostInPath →
        ∀ between, between <+: base host.workingDirectory directory ++ directory.names →
          HoldsProjectFile host.tree between → between <+: holder) := by
  rw [projectSource, List.find?_map] at hsource
  obtain ⟨q, hq, rfl⟩ := Option.map_eq_some_iff.mp hsource
  have ha := Path.above_of_mem_ancestors (List.mem_of_find?_eq_some hq)
  have hstraight := straight_of_above ha hd
  have hfound : host.isFile (q.join projectFile) := by simpa using List.find?_some hq
  obtain ⟨hfits, entry, hentry, hregular⟩ := (isFile_join_iff hstraight).mp hfound
  refine ⟨_, entry, (find_join_iff hstraight).mpr ⟨hfits, rfl, hentry⟩, hregular, ?_, ?_⟩
  · rw [base_of_above ha]
    exact (List.prefix_append_right_inj _).mpr ha.names
  · intro hlong between hbetween hb
    rw [base_of_above ha]
    -- a directory above where the path starts is above any that the search comes to
    obtain hout | hin := List.prefix_or_prefix_of_prefix hbetween (List.prefix_append _ _)
    · exact hout.trans (List.prefix_append _ _)
    · obtain ⟨r, hr, rfl, hisFile⟩ := exists_ancestor_of_holds hd hlong hin hbetween hb
      exact (List.prefix_append_right_inj _).mpr (Path.names_prefix_of_find? hq hr hisFile)

theorem not_holds_of_projectSource_none (hd : Straight directory)
    (hsource : projectSource host directory = none)
    (hfits : (directory.join projectFile).octets.length ≤ FileTree.mostInPath)
    {between : Location} (hstart : base host.workingDirectory directory <+: between)
    (hend : between <+: base host.workingDirectory directory ++ directory.names) :
    ¬HoldsProjectFile host.tree between := by
  intro hb
  rw [projectSource, List.find?_map, Option.map_eq_none_iff] at hsource
  obtain ⟨q, hq, -, hisFile⟩ := exists_ancestor_of_holds hd hfits hstart hend hb
  exact List.find?_eq_none.mp hsource q hq hisFile

end search

namespace Loader

variable {l : Loader} {host : Host} {directory : Path} {start : Location} {entries : Entries}
  {loaded : Loaded}

/-- From a directory whose path has no `..`, a project file that is found stands in that directory
or in one above it in the tree, and in no directory between is there one; if none is found, there is
none in any directory from where the path starts. That none is passed over on the way takes a path
that is not too long for a file in the directory. -/
theorem loadDirectory_nearest
    (hd : host.tree.find host.workingDirectory directory = .ok (start, .directory entries))
    (hup : [Path.dot, Path.dot] ∉ pieces directory)
    (hl : (l.loadDirectory host directory).1 = .ok loaded) :
    (∀ file, loaded.source = some file → ∃ holder entry,
      host.tree.find host.workingDirectory file = .ok (holder ++ [projectFile.octets], entry) ∧
      entry.isRegular ∧ holder <+: start ∧
      ((directory.join projectFile).octets.length ≤ FileTree.mostInPath →
        ∀ between, between <+: start → HoldsProjectFile host.tree between → between <+: holder)) ∧
    (loaded.source = none → (directory.join projectFile).octets.length ≤ FileTree.mostInPath →
      ∀ between, base host.workingDirectory directory <+: between → between <+: start →
        ¬HoldsProjectFile host.tree between) := by
  obtain ⟨hstraight, -, rfl, -⟩ := FileTree.find_eq_ok hup hd
  have hsource : projectSource host directory = loaded.source := by
    rw [← findProjectFile_eq]
    exact (source_of_layered hl).symm
  constructor
  · intro file hfile
    exact projectSource_nearest hstraight (hsource.trans hfile)
  · intro hnone hfits between hin hbetween
    exact not_holds_of_projectSource_none hstraight (hsource.trans hnone) hfits hin hbetween

/-- On the way from a directory spelled with dots and slashes to spare, one entry of the file's name
is itself a directory. -/
theorem loadDirectory_nearest_spelled :
    let name := Bytes.ofText "argon2.toml"
    let app : Entries := [(name, .directory [])]
    let host : Host := {
      tree := ⟨[(Bytes.ofText "srv", .directory [(name, .file []),
        (Bytes.ofText "app", .directory app)]), (name, .file [])]⟩
      environment := Environment.empty
      workingDirectory := [Bytes.ofText "srv"]
      accountHome := none
      executableDirectory := none }
    let l : Loader := {}
    let directory := Path.ofText "./app//."
    let start := [Bytes.ofText "srv", Bytes.ofText "app"]
    let file := Path.ofText "./argon2.toml"
    let loaded : Loaded := ⟨.empty, some file⟩
    host.tree.find host.workingDirectory directory = .ok (start, .directory app) ∧
      [Path.dot, Path.dot] ∉ pieces directory ∧
      (l.loadDirectory host directory).1 = .ok loaded ∧
      ∃ holder entry,
        host.tree.find host.workingDirectory file = .ok (holder ++ [name], entry) ∧
        entry.isRegular ∧ holder <+: start ∧ ∀ between, between <+: start →
          HoldsProjectFile host.tree between → between <+: holder := by
  intro name app host l directory start file loaded
  have hd : host.tree.find host.workingDirectory directory = .ok (start, .directory app) := rfl
  have hup : [Path.dot, Path.dot] ∉ pieces directory := by decide
  have hl : (l.loadDirectory host directory).1 = .ok loaded :=
    eq_ok_of_toOption (by decide +kernel)
  obtain ⟨holder, entry, hfile, hregular, habove, hnearest⟩ :=
    (loadDirectory_nearest hd hup hl).1 file rfl
  exact ⟨hd, hup, hl, holder, entry, hfile, hregular, habove, hnearest (by decide)⟩

/-- From `a/b/..`, which is the directory `a`, the file found is that in `a/b`. And from `a/b` with
so many dots that the file's path is too long, the file there is passed over for one above. -/
theorem loadDirectory_not_nearest :
    let a := Bytes.ofText "a"
    let b := Bytes.ofText "b"
    let name := Bytes.ofText "argon2.toml"
    let inB : Entries := [(name, .file [])]
    let inA : Entries := [(b, .directory inB)]
    let host : Host := {
      tree := ⟨[(a, .directory inA), (name, .file [])]⟩
      environment := Environment.empty
      workingDirectory := []
      accountHome := none
      executableDirectory := none }
    let l : Loader := {}
    let upward := Path.ofText "a/b/.."
    let below := Path.ofText "a/b/argon2.toml"
    let dots := (List.replicate 2044 [Path.slash, Path.dot]).flatten
    let dotted : Path := ⟨Bytes.ofText "a/b" ++ dots⟩
    let above := Path.ofText "argon2.toml"
    (host.tree.find host.workingDirectory upward = .ok ([a], .directory inA) ∧
      (l.loadDirectory host upward).1 = .ok ⟨.empty, some below⟩ ∧
      host.tree.find host.workingDirectory below = .ok ([a, b] ++ [name], .file []) ∧
      ¬[a, b] <+: [a]) ∧
    (host.tree.find host.workingDirectory dotted = .ok ([a, b], .directory inB) ∧
      (l.loadDirectory host dotted).1 = .ok ⟨.empty, some above⟩ ∧
      host.tree.find host.workingDirectory above = .ok ([] ++ [name], .file []) ∧
      HoldsProjectFile host.tree [a, b]) := by
  intro a b name inB inA host l upward below dots dotted above
  have hdotted : host.tree.find host.workingDirectory dotted = .ok ([a, b], .directory inB) := by
    have hplace : (host.tree.find host.workingDirectory dotted).map (·.1) = .ok [a, b] :=
      eq_ok_of_toOption (by decide +kernel)
    obtain ⟨⟨location, entry⟩, hfound, rfl⟩ := map_eq_ok_iff.mp hplace
    obtain ⟨-, -, -, hentry⟩ := FileTree.find_eq_ok (by decide +kernel) hfound
    cases hentry
    exact hfound
  exact ⟨⟨rfl, eq_ok_of_toOption (by decide +kernel), rfl, by decide⟩,
    hdotted, eq_ok_of_toOption (by decide +kernel), rfl, .file [], rfl, rfl⟩

end Loader
end Config
end Argon2Native
