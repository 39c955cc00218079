import Argon2Native.Native.Resolver
import Argon2Native.Native.StandIn
import Argon2Native.Proofs.Ancestors
import Argon2Native.Proofs.Hashing
/-!
The search for the library. Where the platform is known there are at most two candidates, one where
the two directories are the same by their components. The first candidate that is a file and loads
decides, whatever those after it are.

Main statement: `resolve_first_loaded`.
-/
namespace Argon2Native

namespace Platform

variable {os : String}

theorem ofOs_eq_ok_iff {platform : Platform} : ofOs os = .ok platform ↔ (os, platform) ∈ table := by
  have hlookup : ofOs os = .ok platform ↔ table.lookup os = some platform := by
    unfold ofOs
    cases table.lookup os <;> simp
  have hunique : ∀ entry ∈ table, table.lookup entry.1 = some entry.2 := by decide
  rw [hlookup]
  constructor
  · intro h
    obtain ⟨before, after, ht, -⟩ := List.lookup_eq_some_iff.mp h
    rw [ht]
    exact List.mem_append_right _ List.mem_cons_self
  · exact hunique (os, platform)

theorem ofOs_eq_error_iff {f : Failure} :
    ofOs os = .error f ↔ os ∉ table.map (·.1) ∧ f = .unsupportedPlatform os := by
  have hlookup : ofOs os = .error f ↔ table.lookup os = none ∧ f = .unsupportedPlatform os := by
    unfold ofOs
    cases table.lookup os <;> simp [eq_comm]
  rw [hlookup, List.lookup_eq_none_iff]
  simp only [List.mem_map, not_exists, not_and, bne_iff_ne]
  exact and_congr_left' (forall₂_congr fun _ _ => ne_comm)

end Platform

namespace Path

variable {p : Path}

/-- Where a path starts can be told from its first piece, and from whether another one follows. -/
theorem anchor_eq {first : Bytes} {rest : List Bytes}
    (h : p.octets.splitOn slash = first :: rest) : p.components.1 =
      if first = [] ∧ rest ≠ [] then .root else if first = [dot] then .here else .bare := by
  rw [components, split, h]
  cases rest with
  | nil => by_cases hd : first = [dot] <;> simp [hd]
  | cons second rest =>
    cases first with
    | nil => simp
    | cons b first => by_cases hd : b :: first = [dot] <;> simp [hd]

theorem names_eq (p : Path) : p.components.2 = p.names := by
  have hnil : ¬Names [] := by decide
  have hdot : ¬Names [dot] := by decide
  rw [components, split, names, namesIn]
  cases hs : p.octets.splitOn slash with
  | nil => rfl
  | cons first rest =>
    cases rest with
    | nil => by_cases hd : first = [dot] <;> simp [hd, hdot]
    | cons second rest =>
      cases first with
      | nil => simp [hnil]
      | cons b first => by_cases hd : b :: first = [dot] <;> simp [hd, hdot]

theorem same_iff {p q : Path} :
    p.Same q ↔ p.components.1 = q.components.1 ∧ p.names = q.names := by
  rw [← names_eq, ← names_eq]
  exact Prod.ext_iff

variable {file : Path}

theorem anchor_join (hs : slash ∉ file.octets) (hn : Names file.octets) (p : Path) :
    (p.join file).components.1 = p.components.1 := by
  have hrelative : file.isAbsolute = false := decide_eq_false fun h => hs (List.mem_of_head? h)
  have hone : file.octets.splitOn slash = [file.octets] := List.splitOn_eq_singleton hs
  obtain ⟨hp, hj⟩ | ⟨front, hp, hj⟩ | ⟨hp, hj⟩ := octets_join hrelative p
  · have hsplit : (p.join file).octets.splitOn slash = [file.octets] := by rw [hj, hone]
    have hempty : p.octets.splitOn slash = [[]] := by rw [hp]; rfl
    rw [anchor_eq hsplit, anchor_eq hempty]
    simp [hn.2]
  · obtain ⟨first, rest, hfront⟩ := List.exists_cons_of_ne_nil (List.splitOn_ne_nil slash front)
    have hsplit : (p.join file).octets.splitOn slash = first :: (rest ++ [file.octets]) := by
      rw [hj, List.splitOn_append_cons_self, hone, hfront, List.cons_append]
    have hclosed : p.octets.splitOn slash = first :: (rest ++ [[]]) := by
      rw [hp, List.splitOn_append_cons_self, hfront, List.cons_append]
      rfl
    rw [anchor_eq hsplit, anchor_eq hclosed]
    simp
  · obtain ⟨first, rest, hpieces⟩ := List.exists_cons_of_ne_nil (List.splitOn_ne_nil slash p.octets)
    have hsplit : (p.join file).octets.splitOn slash = first :: (rest ++ [file.octets]) := by
      rw [hj, List.splitOn_append_cons_self, hone, hpieces, List.cons_append]
    have hfirst : first = [] → rest ≠ [] := by
      rintro rfl rfl
      have hjoined : [slash].intercalate (p.octets.splitOn slash) = p.octets :=
        List.intercalate_splitOn slash
      exact hp (by rw [← hjoined, hpieces]; rfl)
    rw [anchor_eq hsplit, anchor_eq hpieces]
    by_cases hf : first = []
    · simp [hf, hfirst hf]
    · simp [hf]

/-- Files of one name are the same where their directories are. -/
theorem same_join_iff (hs : slash ∉ file.octets) (hn : Names file.octets) {p q : Path} :
    (p.join file).Same (q.join file) ↔ p.Same q := by
  rw [same_iff, same_iff, anchor_join hs hn, anchor_join hs hn, names_join hs hn, names_join hs hn,
    List.append_cancel_right_eq]

end Path

namespace Native

variable {probe : Probe} {path : Path}

def Probe.PassesOver (probe : Probe) (path : Path) : Prop :=
  probe.isFile path = false ∨ probe.load? path = none

namespace Resolver

variable {r : Resolver} {host : Host} {paths : List Path} {platform : Platform}

def listed (file : Path) : Option Path → Option Path → List Path
  | none, none => []
  | some dir, none | none, some dir => [dir.join file]
  | some dir, some fallback =>
    if (dir.join file).Same (fallback.join file) then [dir.join file]
    else [dir.join file, fallback.join file]

theorem eraseDupsBy_pair {α : Type} (same : α → α → Bool) (x y : α) :
    [x, y].eraseDupsBy same = if same y x then [x] else [x, y] := by
  cases h : same y x <;> simp [List.eraseDupsBy, List.eraseDupsBy.loop, h]

theorem listed_eq (file : Path) (dir fallback : Option Path) :
    listed file dir fallback = ((dir.toList ++ fallback.toList).map (·.join file)).eraseDupsBy
      fun p q => decide (p.Same q) := by
  cases dir with
  | none => cases fallback <;> rfl
  | some dir =>
    cases fallback with
    | none => rfl
    | some fallback =>
      have hsame : (fallback.join file).Same (dir.join file) ↔
          (dir.join file).Same (fallback.join file) := eq_comm
      refine Eq.symm ((eraseDupsBy_pair _ (dir.join file) (fallback.join file)).trans ?_)
      simp only [listed, decide_eq_true_eq, hsame]

theorem candidates_eq_map (r : Resolver) (host : Host) :
    r.candidates host = (Platform.ofOs r.os).map fun platform =>
      listed (.ofText platform.libraryFile) r.searchDir
        (r.fallbackDir.or host.executableDirectory) := by
  simp only [listed_eq]
  unfold candidates
  cases Platform.ofOs r.os <;> rfl

theorem candidates_eq_ok (hp : (r.os, platform) ∈ Platform.table) :
    r.candidates host = .ok (listed (.ofText platform.libraryFile) r.searchDir
      (r.fallbackDir.or host.executableDirectory)) := by
  rw [candidates_eq_map, Platform.ofOs_eq_ok_iff.mpr hp]
  rfl

theorem candidates_eq_error_iff {f : Failure} : r.candidates host = .error f ↔
    r.os ∉ Platform.table.map (·.1) ∧ f = .unsupportedPlatform r.os := by
  rw [candidates_eq_map, map_eq_error_iff, Platform.ofOs_eq_error_iff]

inductive Resolution (r : Resolver) (probe : Probe) (host : Host) : Except Failure Handle → Prop
  | unsupported (hos : r.os ∉ Platform.table.map (·.1)) :
    Resolution r probe host (.error (.unsupportedPlatform r.os))
  | bound {before after : List Path} {path : Path} {entry : EntryPoint}
      (hc : r.candidates host = .ok (before ++ path :: after))
      (hbefore : ∀ p ∈ before, probe.PassesOver p) (hfile : probe.isFile path = true)
      (hload : probe.load? path = some (some entry)) :
    Resolution r probe host (.ok ⟨entry, some path⟩)
  | noSymbol {before after : List Path} {path : Path}
      (hc : r.candidates host = .ok (before ++ path :: after))
      (hbefore : ∀ p ∈ before, probe.PassesOver p) (hfile : probe.isFile path = true)
      (hload : probe.load? path = some none) :
    Resolution r probe host (.error (.symbolNotFound path "argon2_hash"))
  | notFound {platform : Platform} {paths : List Path} (hp : (r.os, platform) ∈ Platform.table)
      (hc : r.candidates host = .ok paths) (hall : ∀ p ∈ paths, probe.PassesOver p) :
    Resolution r probe host (.error (.libraryNotFound platform.libraryFile paths))

theorem resolveBy_eq_bind (probe : Probe) (r : Resolver) (host : Host) :
    r.resolveBy probe host = (Platform.ofOs r.os).bind fun platform =>
      (r.candidates host).bind fun paths =>
      (paths.findSome? probe.verdict?).getD
        (.error (.libraryNotFound platform.libraryFile paths)) := by
  unfold resolveBy
  cases Platform.ofOs r.os with
  | error f => rfl
  | ok platform =>
    cases r.candidates host with
    | error f => rfl
    | ok paths =>
      cases hf : paths.findSome? probe.verdict? with
      | none => simp only [bind, Except.bind, hf, Option.getD_none]
      | some result => simp only [bind, Except.bind, hf, Option.getD_some]

theorem resolveBy_of_known (hp : (r.os, platform) ∈ Platform.table)
    (hc : r.candidates host = .ok paths) : r.resolveBy probe host =
      (paths.findSome? probe.verdict?).getD
        (.error (.libraryNotFound platform.libraryFile paths)) := by
  rw [resolveBy_eq_bind, Platform.ofOs_eq_ok_iff.mpr hp, hc]
  rfl

theorem exists_platform (hc : r.candidates host = .ok paths) :
    ∃ platform, (r.os, platform) ∈ Platform.table := by
  rw [candidates_eq_map, map_eq_ok_iff] at hc
  obtain ⟨platform, hp, -⟩ := hc
  exact ⟨platform, Platform.ofOs_eq_ok_iff.mp hp⟩

theorem resolveBy_of_decided {before after : List Path} {exported : Option EntryPoint}
    (hc : r.candidates host = .ok (before ++ path :: after))
    (hbefore : ∀ p ∈ before, probe.PassesOver p) (hfile : probe.isFile path = true)
    (hload : probe.load? path = some exported) :
    r.resolveBy probe host = Handle.ofLoaded path exported := by
  obtain ⟨platform, hp⟩ := exists_platform hc
  have hdecided : (before ++ path :: after).findSome? probe.verdict? =
      some (Handle.ofLoaded path exported) := by
    refine List.findSome?_eq_some_iff.mpr ⟨before, path, after, rfl, ?_, ?_⟩
    · exact Probe.verdict?_eq_some_iff.mpr ⟨hfile, exported, hload, rfl⟩
    · exact fun p hmem => Probe.verdict?_eq_none_iff.mpr (hbefore p hmem)
  rw [resolveBy_of_known hp hc, hdecided, Option.getD_some]

theorem resolution_resolveBy (probe : Probe) (r : Resolver) (host : Host) :
    Resolution r probe host (r.resolveBy probe host) := by
  cases hos : Platform.ofOs r.os with
  | error f =>
    obtain ⟨hunknown, rfl⟩ := Platform.ofOs_eq_error_iff.mp hos
    rw [resolveBy_eq_bind, hos]
    exact .unsupported hunknown
  | ok platform =>
    have hp := Platform.ofOs_eq_ok_iff.mp hos
    have hc : r.candidates host = _ := candidates_eq_ok hp
    cases hf : (listed (.ofText platform.libraryFile) r.searchDir
        (r.fallbackDir.or host.executableDirectory)).findSome? probe.verdict? with
    | none =>
      rw [resolveBy_of_known hp hc, hf, Option.getD_none]
      exact .notFound hp hc fun p hmem =>
        Probe.verdict?_eq_none_iff.mp (List.findSome?_eq_none_iff.mp hf p hmem)
    | some result =>
      obtain ⟨before, path, after, hlist, hpath, hbefore⟩ := List.findSome?_eq_some_iff.mp hf
      obtain ⟨hfile, exported, hload, -⟩ := Probe.verdict?_eq_some_iff.mp hpath
      rw [hlist] at hc
      have hpassed : ∀ p ∈ before, probe.PassesOver p :=
        fun p hmem => Probe.verdict?_eq_none_iff.mp (hbefore p hmem)
      rw [resolveBy_of_decided hc hpassed hfile hload]
      cases exported with
      | none => exact .noSymbol hc hpassed hfile hload
      | some entry => exact .bound hc hpassed hfile hload

theorem resolveBy_of_resolution {result : Except Failure Handle}
    (h : Resolution r probe host result) : r.resolveBy probe host = result := by
  cases h with
  | unsupported hos =>
    rw [resolveBy_eq_bind, Platform.ofOs_eq_error_iff.mpr ⟨hos, rfl⟩]
    rfl
  | bound hc hbefore hfile hload => exact resolveBy_of_decided hc hbefore hfile hload
  | noSymbol hc hbefore hfile hload => exact resolveBy_of_decided hc hbefore hfile hload
  | notFound hp hc hall =>
    have hnone := List.findSome?_eq_none_iff.mpr fun p hmem =>
      Probe.verdict?_eq_none_iff.mpr (hall p hmem)
    rw [resolveBy_of_known hp hc, hnone, Option.getD_none]

/-- What follows the first element that gives something is not looked at. -/
theorem findSome?_eq_of_alike {α β : Type} {f g : α → Option β} {before after : List α} {x : α}
    (hx : f x ≠ none) (halike : ∀ a ∈ before ++ [x], g a = f a) :
    (before ++ x :: after).findSome? g = (before ++ x :: after).findSome? f := by
  induction before with
  | nil =>
    obtain ⟨b, hb⟩ := Option.ne_none_iff_exists'.mp hx
    have hg : g x = some b := (halike x List.mem_cons_self).trans hb
    rw [List.nil_append, List.findSome?_cons_of_isSome (by rw [hg]; rfl),
      List.findSome?_cons_of_isSome (by rw [hb]; rfl), hg, hb]
  | cons a before ih =>
    have ha : g a = f a := halike a List.mem_cons_self
    have htail := ih fun b hb => halike b (List.mem_cons_of_mem a hb)
    rw [List.cons_append, List.findSome?_cons, List.findSome?_cons, ha, htail]

def AlikeOn (probe other : Probe) (paths : List Path) : Prop :=
  ∀ p ∈ paths, other.isFile p = probe.isFile p ∧
    (probe.isFile p = true → other.load? p = probe.load? p)

theorem resolveBy_of_alikeOn {other : Probe} {before after : List Path}
    (hc : r.candidates host = .ok (before ++ path :: after)) (hpath : ¬probe.PassesOver path)
    (halike : AlikeOn probe other (before ++ [path])) :
    r.resolveBy other host = r.resolveBy probe host := by
  obtain ⟨platform, hp⟩ := exists_platform hc
  have hverdict : ∀ p ∈ before ++ [path], other.verdict? p = probe.verdict? p := by
    intro p hmem
    obtain ⟨hfile, hload⟩ := halike p hmem
    unfold Probe.verdict?
    rw [hfile]
    cases hf : probe.isFile p with
    | false => rfl
    | true => rw [hload hf]
  rw [resolveBy_of_known hp hc, resolveBy_of_known hp hc,
    findSome?_eq_of_alike (mt Probe.verdict?_eq_none_iff.mp hpath) hverdict]

/-- The candidates fail for an unknown platform alone; else they are the files of the two
directories, or of one where the two are the same, whatever stands there. A search goes through them
in order and passes over those that are no files or do not load. The first that loads decides, with
or without an entry point, and those after it are not asked; without any, all of them are reported
as tried. -/
theorem resolve_first_loaded (r : Resolver) (host : Host) :
    (∀ f, r.candidates host = .error f ↔
      r.os ∉ Platform.table.map (·.1) ∧ f = .unsupportedPlatform r.os) ∧
    (∀ platform, (r.os, platform) ∈ Platform.table →
      r.candidates host = .ok (listed (.ofText platform.libraryFile) r.searchDir
        (r.fallbackDir.or host.executableDirectory))) ∧
    (∀ (platform : Platform) (dir fallback : Path),
      let file := Path.ofText platform.libraryFile
      (dir.join file).Same (fallback.join file) ↔ dir.Same fallback) ∧
    (∀ probe result, r.resolveBy probe host = result ↔ Resolution r probe host result) ∧
    (∀ (probe other : Probe) (before after : List Path) (path : Path),
      r.candidates host = .ok (before ++ path :: after) → ¬probe.PassesOver path →
      AlikeOn probe other (before ++ [path]) →
        r.resolveBy other host = r.resolveBy probe host) ∧
    r.resolve host = r.resolveBy (.ofHost host) host := by
  refine ⟨fun f => candidates_eq_error_iff, fun platform => candidates_eq_ok, ?_, ?_, ?_, rfl⟩
  · intro platform dir fallback
    have hname : Path.slash ∉ (Path.ofText platform.libraryFile).octets ∧
        Path.Names (Path.ofText platform.libraryFile).octets := by
      cases platform <;> decide +kernel
    exact Path.same_join_iff hname.1 hname.2
  · intro probe result
    exact ⟨fun h => h ▸ resolution_resolveBy probe r host, resolveBy_of_resolution⟩
  · intro probe other before after path hc hpath halike
    exact resolveBy_of_alikeOn hc hpath halike

/-- The library in the search directory loads without an entry point. That decides, whether or not
there is another library in the fallback directory. -/
theorem resolve_first_loaded_without_symbol :
    let first := Path.ofText "/opt//lib/libargon2.so"
    let second := Path.ofText "/usr/lib/libargon2.so"
    let r : Resolver := {
      os := "android"
      searchDir := some (Path.ofText "/opt//lib/")
      fallbackDir := some (Path.ofText "/usr/lib") }
    let host : Host := {
      tree := FileTree.empty
      environment := Environment.empty
      workingDirectory := []
      accountHome := none
      executableDirectory := none }
    let probe : Probe := {
      isFile := fun _ => true
      load? := fun path => some (if path = first then none else some versioned) }
    let other : Probe := { isFile := fun path => path = first, load? := fun _ => some none }
    (r.os, Platform.linux) ∈ Platform.table ∧ r.candidates host = .ok [first, second] ∧
      ¬probe.PassesOver first ∧ AlikeOn probe other [first] ∧
      r.resolveBy probe host = .error (.symbolNotFound first "argon2_hash") ∧
      r.resolveBy other host = .error (.symbolNotFound first "argon2_hash") := by
  intro first second r host probe other
  obtain ⟨-, hcandidates, -, hresolution, hlater, -⟩ := resolve_first_loaded r host
  have hp : (r.os, Platform.linux) ∈ Platform.table := by decide
  have hlisted : listed (.ofText Platform.linux.libraryFile) r.searchDir
      (r.fallbackDir.or host.executableDirectory) = [first, second] := by decide +kernel
  have hc : r.candidates host = .ok ([] ++ first :: [second]) := hlisted ▸ hcandidates .linux hp
  have hload : probe.load? first = some none := by simp [probe]
  have hpath : ¬probe.PassesOver first := by
    rintro (h | h)
    · cases h
    · rw [hload] at h
      cases h
  have halike : AlikeOn probe other [first] := by
    intro p hmem
    obtain rfl := List.mem_singleton.mp hmem
    exact ⟨by simp [probe, other], fun _ => hload.symm⟩
  have hresult : r.resolveBy probe host = .error (.symbolNotFound first "argon2_hash") :=
    (hresolution probe _).mpr (.noSymbol hc (by simp) rfl hload)
  have hother := hlater probe other [] [second] first hc hpath halike
  exact ⟨hp, hc, hpath, halike, hresult, hother.trans hresult⟩

end Resolver
end Native
end Argon2Native
