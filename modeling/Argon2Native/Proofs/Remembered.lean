import Argon2Native.Proofs.Overrides
/-!
A loader over its whole life. It remembers where the user's file is, once it has looked for it, and
nothing else: not what it read, nor whether that failed. So each of its calls ends as the first call
of a new loader for the same user's file would, in the world as it is at that moment.

Main statement: `visitAll_eq_fresh`; the step lemmas are `Settles.visit_eq` and `Settles.after`.
-/
namespace Argon2Native

def Host.withHome (host : Host) (value : Option Bytes) (account : Option Path) : Host :=
  { host with
    environment := ⟨fun name => if name = "HOME" then value else host.environment.value? name⟩
    accountHome := account }

namespace Config

inductive Loading where
  | directory (path : Path)
  | file (path : Path)
  | environment

def Loading.readsFiles : Loading → Bool
  | .directory _ | .file _ => true
  | .environment => false

/-- A call of a loader with the world that it is made in, which may be any at every call. -/
structure Visit where
  host : Host
  loading : Loading

def Visit.readsFiles (v : Visit) : Bool := v.loading.readsFiles

namespace Loader

def ofUserFile (user : Path) : Loader := ⟨some user⟩

def visit (l : Loader) (v : Visit) : Except Failure Loaded × Loader :=
  match v.loading with
  | .directory path => l.loadDirectory v.host path
  | .file path => l.loadFile v.host path
  | .environment => (loadEnvironment v.host, l)

def visitAll (l : Loader) : List Visit → List (Except Failure Loaded)
  | [] => []
  | v :: visits => (l.visit v).1 :: (l.visit v).2.visitAll visits

/-- The user's file that calls in a row go by: the one that the loader was given or has found, or
else the one that the first call to read files finds. -/
structure Settles (l : Loader) (visits : List Visit) (user : Path) : Prop where
  known : ∀ path, l.userPath = some path → path = user
  found : l.userPath = none →
    ∀ v, visits.find? Visit.readsFiles = some v → userFile v.host = .ok user

section step

variable {l : Loader} {host : Host} {user : Path} {v : Visit} {visits : List Visit}

theorem settled_settled (l : Loader) (host : Host) :
    (l.settled host).settled host = l.settled host := by
  obtain ⟨_ | path⟩ := l
  · simp only [settled]
    cases (userFile host).toOption <;> rfl
  · rfl

/-- Looking for the user's file beforehand makes no difference. -/
theorem layered_settled (l : Loader) (host : Host) (source : Option Path) :
    (l.settled host).layered host source = l.layered host source := by
  simp only [layered, loadUser, settled_settled]

theorem settled_of_settles (h : l.Settles (v :: visits) user) (hv : v.readsFiles) :
    l.settled v.host = ofUserFile user := by
  cases hu : l.userPath with
  | some path =>
    obtain rfl := h.known path hu
    simp only [settled, hu]
    exact congrArg Loader.mk hu
  | none =>
    have hfile := h.found hu v (List.find?_cons_of_pos hv)
    simp only [settled, hu, hfile]
    rfl

theorem Settles.visit_eq (h : l.Settles (v :: visits) user) :
    (l.visit v).1 = ((ofUserFile user).visit v).1 := by
  obtain ⟨host, loading⟩ := v
  have hlayered (hv : loading.readsFiles) (source : Option Path) :
      l.layered host source = (ofUserFile user).layered host source := by
    rw [← layered_settled, settled_of_settles h hv]
  cases loading with
  | directory path => exact hlayered rfl _
  | file path => exact hlayered rfl (some path)
  | environment => rfl

theorem Settles.after (h : l.Settles (v :: visits) user) : (l.visit v).2.Settles visits user := by
  obtain ⟨host, loading⟩ := v
  have hsettled (hv : loading.readsFiles) : (l.settled host).Settles visits user := by
    rw [settled_of_settles h hv]
    exact ⟨fun path hpath => (Option.some.inj hpath).symm, nofun⟩
  cases loading with
  | directory path => exact hsettled rfl
  | file path => exact hsettled rfl
  | environment => exact ⟨h.known, fun hu w hw => h.found hu w hw⟩

end step

section home

variable (host : Host) (value : Option Bytes) (account : Option Path)

/-- None of the variables that give settings is the one that names the home directory. -/
theorem withEnvironment_withHome (s : Settings) :
    s.withEnvironment (host.withHome value account).environment =
      s.withEnvironment host.environment := by
  refine Settings.withEnvironment_congr (fun name hname => ?_) s
  have hother : name ≠ "HOME" := by
    rintro rfl
    exact absurd hname (by decide)
  simp only [Environment.text?, Environment.octets?, Host.withHome, if_neg hother]

/-- Once the user's file is known, the home directory is not looked at. -/
theorem visit_withHome (user : Path) (loading : Loading) :
    ((ofUserFile user).visit ⟨host.withHome value account, loading⟩).1 =
      ((ofUserFile user).visit ⟨host, loading⟩).1 := by
  have hfile (file : Option Path) :
      Settings.ofFile (host.withHome value account) file = Settings.ofFile host file := by
    cases file <;> rfl
  have hlayered (source : Option Path) :
      (ofUserFile user).layered (host.withHome value account) source =
        (ofUserFile user).layered host source :=
    layered_congr (hfile _) (hfile source) (withEnvironment_withHome host value account)
  cases loading with
  | directory path => exact hlayered (findProjectFile host path)
  | file path => exact hlayered (some path)
  | environment => simp only [visit, loadEnvironment, withEnvironment_withHome]

end home

theorem exists_userFile {host : Host} (hhome : host.home?.isSome) :
    ∃ user, userFile host = .ok user := by
  obtain ⟨home, hh⟩ := Option.isSome_iff_exists.mp hhome
  exact ⟨_, by rw [userFile, hh]⟩

theorem exists_settles {l : Loader} {visits : List Visit}
    (hhome : l.userPath = none →
      ∀ v, visits.find? Visit.readsFiles = some v → v.host.home?.isSome) :
    ∃ user, l.Settles visits user := by
  cases hu : l.userPath with
  | some path => exact ⟨path, by simp [hu], by simp [hu]⟩
  | none =>
    cases hf : visits.find? Visit.readsFiles with
    | none => exact ⟨⟨[]⟩, by simp [hu], by simp [hf]⟩
    | some v =>
      obtain ⟨user, hfile⟩ := exists_userFile (hhome hu v hf)
      exact ⟨user, by simp [hu], by simp [hf, hfile]⟩

/-- Calls of one loader in a row, in a world that changes between them, end each as the call of a
new loader for the user's file that they go by. That is the one that the loader was given, or else
the one under the home directory that the first call to read files finds, if it finds a home
directory; where the home directory is later makes no difference. -/
theorem visitAll_eq_fresh (l : Loader) (visits : List Visit) :
    ((l.userPath = none → ∀ v, visits.find? Visit.readsFiles = some v → v.host.home?.isSome) →
      ∃ user, l.Settles visits user) ∧
    (∀ user, l.Settles visits user →
      l.visitAll visits = visits.map fun v => ((ofUserFile user).visit v).1) ∧
    ∀ user host value account loading,
      ((ofUserFile user).visit ⟨Host.withHome host value account, loading⟩).1 =
        ((ofUserFile user).visit ⟨host, loading⟩).1 := by
  refine ⟨exists_settles, ?_, fun user host value account => visit_withHome host value account user⟩
  · intro user h
    induction visits generalizing l with
    | nil => rfl
    | cons v visits ih => rw [visitAll, List.map_cons, h.visit_eq, ih _ h.after]

/-- The first call reads no file. The second one finds the user's file but cannot read it, and the
third one goes by the same file, though the home directory is another one by then. -/
theorem visitAll_eq_fresh_moved :
    let host (home text : String) : Host := {
      tree := ⟨[(Bytes.ofText "b", .directory [(Bytes.ofText ".argon2", .directory
        [(Bytes.ofText "config.toml", .file (Bytes.ofText text))])])]⟩
      environment := Environment.empty.set "HOME" (Bytes.ofText home)
      workingDirectory := []
      accountHome := none
      executableDirectory := none }
    let user := Path.ofText "/b/.argon2/config.toml"
    let directory := Path.ofText "/b"
    let first : Visit := ⟨host "/a" "limits = 1", .environment⟩
    let second : Visit := ⟨host "/b" "limits = 1", .directory directory⟩
    let third : Visit := ⟨host "/a" "limits.max_output_len = 64", .directory directory⟩
    let visits := [first, second, third]
    let l : Loader := {}
    let capped : Settings := { limits := some { maxOutputLength := some 64 } }
    l.userPath = none ∧ visits.find? Visit.readsFiles = some second ∧
      second.host.home?.isSome ∧ l.Settles visits user ∧
      l.visitAll visits = visits.map (fun v => ((ofUserFile user).visit v).1) ∧
      l.visitAll visits = [.ok ⟨.empty, none⟩, .error (.malformed user), .ok ⟨capped, none⟩] := by
  intro host user directory first second third visits l capped
  have hfirst : visits.find? Visit.readsFiles = some second := rfl
  obtain ⟨hsettles, hvisits, -⟩ := visitAll_eq_fresh l visits
  have hhome : second.host.home?.isSome := rfl
  have huser : l.Settles visits user := by
    obtain ⟨found, hfound⟩ := hsettles fun _ v hv => by
      rw [← Option.some.inj (hfirst.symm.trans hv)]
      exact hhome
    have hfile : userFile second.host = .ok user := eq_ok_of_toOption (by decide +kernel)
    have hsame : found = user := Except.ok.inj ((hfound.found rfl second hfirst).symm.trans hfile)
    exact hsame ▸ hfound
  refine ⟨rfl, hfirst, hhome, huser, hvisits user huser, ?_⟩
  decide +kernel

end Loader
end Config
end Argon2Native
