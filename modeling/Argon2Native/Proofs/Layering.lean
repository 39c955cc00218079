import Argon2Native.Config.Loader
import Argon2Native.Proofs.Merging
import Argon2Native.Proofs.Validation
/-!
Layers of settings. The user's file is the bottom one, the project's file comes over it and the
environment over both; whatever an upper layer leaves unset is as in the layers below.

Main statement: `loadDirectory_layers`, with a rule for each stage at which loading can end.
-/
namespace Argon2Native.Config

theorem eq_ok_of_toOption {ε α : Type} {x : Except ε α} {a : α} (h : x.toOption = some a) :
    x = .ok a := by
  cases x with
  | error e => cases h
  | ok b => exact congrArg Except.ok (Option.some.inj h)

theorem map_bind {ε α β γ : Type} (x : Except ε α) (f : α → β) (g : β → Except ε γ) :
    (x.map f).bind g = x.bind fun a => g (f a) := by
  cases x <;> rfl

structure Variables where
  libraryDir : Option String
  maxOutputLength : Option String
  variant : Option String

namespace Variables

structure Of (v : Variables) (env : Environment) : Prop where
  libraryDir : env.value? libraryDirVariable = v.libraryDir.map Bytes.ofText
  maxOutputLength : env.value? maxOutputLengthVariable = v.maxOutputLength.map Bytes.ofText
  variant : env.value? variantVariable = v.variant.map Bytes.ofText

def given (value : Option String) : Option String := value.filter (· ≠ "")

def libraryDir? (v : Variables) : Option Path := (given v.libraryDir).map Path.ofText

def maxOutputLength? (v : Variables) : Except Failure (Option Nat) :=
  (given v.maxOutputLength).mapM readMaxOutputLength

def variant? (v : Variables) : Except Failure (Option String) :=
  (given v.variant).mapM readVariant

def layer (v : Variables) (maxOutputLength : Option Nat) (variant : Option String) : Settings where
  library := v.libraryDir?.map fun dir => { dir := some dir }
  limits := maxOutputLength.map fun n => { maxOutputLength := some n }
  defaults := variant.map fun name => { variant := some name }

end Variables

theorem ofText_eq_nil_iff {s : String} : Bytes.ofText s = [] ↔ s = "" := by
  constructor
  · intro h
    have he : Bytes.ofText s = Bytes.ofText "" := h
    exact Option.some.inj (by rw [← Bytes.text?_ofText s, he, Bytes.text?_ofText])
  · rintro rfl
    rfl

theorem text?_eq_given {env : Environment} {name : String} {value : Option String}
    (h : env.value? name = value.map Bytes.ofText) : env.text? name = Variables.given value := by
  rw [Environment.text?, Environment.octets?, h, Variables.given]
  cases value with
  | none => rfl
  | some s =>
    by_cases hs : s = ""
    · subst hs
      rfl
    · have hb : Bytes.ofText s ≠ [] := mt ofText_eq_nil_iff.mp hs
      rw [Option.map_some, Option.filter_some_pos (by simpa using hb),
        Option.filter_some_pos (by simpa using hs), Option.bind_some, Bytes.text?_ofText]

namespace Settings

/-- Setting a value is merging a layer that sets it alone. -/
theorem setLibraryDir_eq (s : Settings) (dir : Path) :
    s.setLibraryDir dir = s.merge { library := some { dir := some dir } } := by
  obtain ⟨library, limits, defaults⟩ := s
  cases library <;> simp [setLibraryDir, merge, LibraryTable.merge]

theorem setMaxOutputLength_eq (s : Settings) (n : Nat) :
    s.setMaxOutputLength n = s.merge { limits := some { maxOutputLength := some n } } := by
  obtain ⟨library, limits, defaults⟩ := s
  cases limits <;> simp [setMaxOutputLength, merge, LimitsTable.merge]

theorem setVariant_eq (s : Settings) (name : String) :
    s.setVariant name = s.merge { defaults := some { variant := some name } } := by
  obtain ⟨library, limits, defaults⟩ := s
  cases defaults <;> simp [setVariant, merge, DefaultsTable.merge]

def setRead {α : Type} (set : Settings → α → Settings) (read : String → Except Failure α)
    (s : Settings) : Option String → Except Failure Settings
  | some text => (read text).map (set s)
  | none => .ok s

/-- The variables are read one after the other, and what comes of them is checked at the end. -/
theorem withEnvironment_eq_bind (s : Settings) (env : Environment) :
    s.withEnvironment env =
      (setRead setMaxOutputLength readMaxOutputLength
        ((env.text? libraryDirVariable).elim s (s.setLibraryDir ∘ Path.ofText))
        (env.text? maxOutputLengthVariable)).bind fun s =>
      (setRead setVariant readVariant s (env.text? variantVariable)).bind fun s =>
      s.validate.bind fun _ => .ok s := by
  unfold withEnvironment
  cases env.text? libraryDirVariable <;> cases env.text? maxOutputLengthVariable <;>
    cases env.text? variantVariable <;> rfl

/-- What is read comes as a layer, which is empty where there is nothing to read. -/
theorem setRead_eq {α : Type} {set : Settings → α → Settings} {read : String → Except Failure α}
    (layer : Option α → Settings) (hnone : layer none = empty)
    (hsome : ∀ s a, set s a = s.merge (layer (some a))) (s : Settings) (value : Option String) :
    setRead set read s value = (value.mapM read).map fun a => s.merge (layer a) := by
  cases value with
  | none =>
    change Except.ok s = .ok (s.merge (layer none))
    rw [hnone, merge_empty]
  | some text =>
    rw [Option.mapM_some, setRead]
    cases read text with
    | error f => rfl
    | ok a => exact congrArg Except.ok (hsome s a)

theorem setGivenDir_eq (s : Settings) (v : Variables) :
    (Variables.given v.libraryDir).elim s (s.setLibraryDir ∘ Path.ofText) =
      s.merge { library := v.libraryDir?.map fun dir => { dir := some dir } } := by
  rw [Variables.libraryDir?]
  cases Variables.given v.libraryDir with
  | none => exact (merge_empty s).symm
  | some text => exact setLibraryDir_eq s (Path.ofText text)

theorem withEnvironment_eq {env : Environment} {v : Variables} (hv : v.Of env) (s : Settings) :
    s.withEnvironment env = v.maxOutputLength?.bind fun most => v.variant?.bind fun variant =>
      (s.merge (v.layer most variant)).validate.map fun _ => s.merge (v.layer most variant) := by
  -- the three layers set values of different tables, so together they are one
  have hlayer (most : Option Nat) (variant : Option String) :
      ((s.merge { library := v.libraryDir?.map fun dir => { dir := some dir } }).merge
        { limits := most.map fun n => { maxOutputLength := some n } }).merge
        { defaults := variant.map fun name => { variant := some name } } =
      s.merge (v.layer most variant) := by
    simp [merge, Variables.layer]
  rw [withEnvironment_eq_bind, text?_eq_given hv.libraryDir, text?_eq_given hv.maxOutputLength,
    text?_eq_given hv.variant, setGivenDir_eq,
    setRead_eq (fun most => { limits := most.map fun n => { maxOutputLength := some n } }) rfl
      setMaxOutputLength_eq, map_bind, Variables.maxOutputLength?]
  refine congrArg _ (funext fun most => ?_)
  rw [setRead_eq (fun name => { defaults := name.map fun name => { variant := some name } }) rfl
    setVariant_eq, map_bind, Variables.variant?]
  refine congrArg _ (funext fun variant => ?_)
  rw [hlayer]
  cases (s.merge (v.layer most variant)).validate <;> rfl

def ofFile (host : Host) : Option Path → Except Failure Settings
  | some file => load host file
  | none => .ok empty

end Settings

def projectSource (host : Host) (directory : Path) : Option Path :=
  (directory.ancestors.map (·.join projectFile)).find? host.isFile

theorem findProjectFile_eq (host : Host) (directory : Path) :
    findProjectFile host directory = projectSource host directory := by
  rw [findProjectFile, Path.findAncestor?_eq, projectSource]
  induction directory.ancestors with
  | nil => rfl
  | cons ancestor ancestors ih =>
    rw [List.findSome?_cons, List.map_cons, List.find?_cons]
    cases hf : host.isFile (ancestor.join projectFile) with
    | true => simp [hf]
    | false => simpa [hf] using ih

namespace Loader

def userSource (l : Loader) (host : Host) : Option Path :=
  (l.userPath.or (userFile host).toOption).filter host.exists?

theorem userPath_settled (l : Loader) (host : Host) :
    (l.settled host).userPath = l.userPath.or (userFile host).toOption := by
  cases hu : l.userPath with
  | none => simp [settled, hu]
  | some path => simp [settled, hu]

theorem loadUser_eq (l : Loader) (host : Host) :
    l.loadUser host = Settings.ofFile host (l.userSource host) := by
  rw [loadUser, userPath_settled, userSource]
  cases l.userPath.or (userFile host).toOption with
  | none => rfl
  | some path =>
    by_cases hx : host.exists? path
    · rw [Option.filter_some_pos hx]
      exact if_pos hx
    · rw [Option.filter_some_neg (by simpa using hx)]
      exact if_neg hx

/-- All that is loaded from files goes through the same stages. -/
theorem layered_eq_bind (l : Loader) (host : Host) (source : Option Path) :
    l.layered host source = (Settings.ofFile host (l.userSource host)).bind fun user =>
      (Settings.ofFile host source).bind fun project =>
      ((user.merge project).withEnvironment host.environment).map (⟨·, source⟩) := by
  have hmap (s : Settings) : (s.withEnvironment host.environment).bind
      (fun settings => Except.ok (Loaded.mk settings source)) =
        (s.withEnvironment host.environment).map (⟨·, source⟩) := by
    cases s.withEnvironment host.environment <;> rfl
  rw [layered, loadUser_eq]
  refine congrArg _ (funext fun user => ?_)
  cases source with
  | none =>
    refine (hmap user).trans ?_
    rw [Settings.ofFile, Except.bind, Settings.merge_empty]
  | some file =>
    rw [Settings.ofFile]
    cases hp : Settings.load host file with
    | error f => simp only [hp]; rfl
    | ok project => simp only [hp]; exact hmap (user.merge project)

/-- What is loaded depends on a host by its files and by what its environment makes of settings. -/
theorem layered_congr {l : Loader} {host host' : Host} {source : Option Path}
    (huser : Settings.ofFile host' (l.userSource host') =
      Settings.ofFile host (l.userSource host))
    (hsource : Settings.ofFile host' source = Settings.ofFile host source)
    (henv : ∀ s : Settings,
      s.withEnvironment host'.environment = s.withEnvironment host.environment) :
    l.layered host' source = l.layered host source := by
  simp only [layered_eq_bind, huser, hsource, henv]

theorem layered_eq {host : Host} {v : Variables} (hv : v.Of host.environment) (l : Loader)
    (source : Option Path) :
    l.layered host source = (Settings.ofFile host (l.userSource host)).bind fun user =>
      (Settings.ofFile host source).bind fun project =>
      v.maxOutputLength?.bind fun most => v.variant?.bind fun variant =>
      ((user.merge project).merge (v.layer most variant)).validate.map fun _ =>
        ⟨(user.merge project).merge (v.layer most variant), source⟩ := by
  have hmap (s : Settings) :
      (s.withEnvironment host.environment).map (Loaded.mk · source) =
        v.maxOutputLength?.bind fun most => v.variant?.bind fun variant =>
          (s.merge (v.layer most variant)).validate.map fun _ =>
            ⟨s.merge (v.layer most variant), source⟩ := by
    rw [Settings.withEnvironment_eq hv]
    cases v.maxOutputLength? with
    | error f => rfl
    | ok most =>
      cases v.variant? with
      | error f => rfl
      | ok variant =>
        simp only [Except.bind]
        cases (s.merge (v.layer most variant)).validate <;> rfl
  simp only [layered_eq_bind, hmap]

end Loader

/-- How loading ends, with a rule for each stage: a stage is reached where those before it
succeeded, and the first one that fails gives the failure. -/
inductive Outcome (host : Host) (v : Variables) (userSource source : Option Path) :
    Except Failure Loaded → Prop where
  | userFile {f : Failure} (hu : Settings.ofFile host userSource = .error f) :
    Outcome host v userSource source (.error f)
  | projectFile {user : Settings} {f : Failure} (hu : Settings.ofFile host userSource = .ok user)
      (hp : Settings.ofFile host source = .error f) :
    Outcome host v userSource source (.error f)
  | maxOutputLength {user project : Settings} {f : Failure}
      (hu : Settings.ofFile host userSource = .ok user)
      (hp : Settings.ofFile host source = .ok project) (hm : v.maxOutputLength? = .error f) :
    Outcome host v userSource source (.error f)
  | variant {user project : Settings} {most : Option Nat} {f : Failure}
      (hu : Settings.ofFile host userSource = .ok user)
      (hp : Settings.ofFile host source = .ok project) (hm : v.maxOutputLength? = .ok most)
      (hn : v.variant? = .error f) :
    Outcome host v userSource source (.error f)
  | invalid {user project : Settings} {most : Option Nat} {variant : Option String} {f : Failure}
      (hu : Settings.ofFile host userSource = .ok user)
      (hp : Settings.ofFile host source = .ok project) (hm : v.maxOutputLength? = .ok most)
      (hn : v.variant? = .ok variant)
      (hi : ((user.merge project).merge (v.layer most variant)).validate = .error f) :
    Outcome host v userSource source (.error f)
  | loaded {user project : Settings} {most : Option Nat} {variant : Option String}
      (hu : Settings.ofFile host userSource = .ok user)
      (hp : Settings.ofFile host source = .ok project) (hm : v.maxOutputLength? = .ok most)
      (hn : v.variant? = .ok variant)
      (hi : ((user.merge project).merge (v.layer most variant)).validate = .ok ()) :
    Outcome host v userSource source
      (.ok ⟨(user.merge project).merge (v.layer most variant), source⟩)

namespace Loader

variable {l : Loader} {host : Host} {v : Variables} {source : Option Path}

theorem outcome_layered (hv : v.Of host.environment) (l : Loader) (source : Option Path) :
    Outcome host v (l.userSource host) source (l.layered host source) := by
  rw [layered_eq hv]
  cases hu : Settings.ofFile host (l.userSource host) with
  | error f => exact .userFile hu
  | ok user =>
    cases hp : Settings.ofFile host source with
    | error f => exact .projectFile hu hp
    | ok project =>
      cases hm : v.maxOutputLength? with
      | error f => exact .maxOutputLength hu hp hm
      | ok most =>
        cases hn : v.variant? with
        | error f => exact .variant hu hp hm hn
        | ok variant =>
          simp only [Except.bind]
          cases hi : ((user.merge project).merge (v.layer most variant)).validate with
          | error f => exact .invalid hu hp hm hn hi
          | ok u => exact .loaded hu hp hm hn hi

theorem layered_eq_of_outcome (hv : v.Of host.environment) {r : Except Failure Loaded}
    (hr : Outcome host v (l.userSource host) source r) : l.layered host source = r := by
  rw [layered_eq hv]
  cases hr with
  | userFile hu => rw [hu]; rfl
  | projectFile hu hp => rw [hu, hp]; rfl
  | maxOutputLength hu hp hm => rw [hu, hp, hm]; rfl
  | variant hu hp hm hn => rw [hu, hp, hm, hn]; rfl
  | invalid hu hp hm hn hi => simp only [hu, hp, hm, hn, Except.bind, hi, Except.map]
  | loaded hu hp hm hn hi => simp only [hu, hp, hm, hn, Except.bind, hi, Except.map]

end Loader

namespace Variables

variable (v : Variables) (most : Option Nat) (variant : Option String)

@[simp] theorem libraryDir?_layer : (v.layer most variant).libraryDir? = v.libraryDir? := by
  unfold layer
  cases v.libraryDir? <;> rfl

@[simp] theorem fallbackDir?_layer : (v.layer most variant).fallbackDir? = none := by
  unfold layer
  cases v.libraryDir? <;> rfl

@[simp] theorem maxOutputLength?_layer : (v.layer most variant).maxOutputLength? = most := by
  cases most <;> rfl

@[simp] theorem timeCost?_layer : (v.layer most variant).timeCost? = none := by
  cases variant <;> rfl

@[simp] theorem memoryCost?_layer : (v.layer most variant).memoryCost? = none := by
  cases variant <;> rfl

@[simp] theorem parallelism?_layer : (v.layer most variant).parallelism? = none := by
  cases variant <;> rfl

@[simp] theorem outputLength?_layer : (v.layer most variant).outputLength? = none := by
  cases variant <;> rfl

@[simp] theorem variant?_layer : (v.layer most variant).variant? = variant := by
  cases variant <;> rfl

end Variables

structure Precedence (v : Variables) (user project s : Settings) : Prop where
  libraryDir : s.libraryDir? = v.libraryDir?.or (project.libraryDir?.or user.libraryDir?)
  fallbackDir : s.fallbackDir? = project.fallbackDir?.or user.fallbackDir?
  maxOutputLength : ∃ most, v.maxOutputLength? = .ok most ∧
    s.maxOutputLength? = most.or (project.maxOutputLength?.or user.maxOutputLength?)
  timeCost : s.timeCost? = project.timeCost?.or user.timeCost?
  memoryCost : s.memoryCost? = project.memoryCost?.or user.memoryCost?
  parallelism : s.parallelism? = project.parallelism?.or user.parallelism?
  outputLength : s.outputLength? = project.outputLength?.or user.outputLength?
  variant : ∃ name, v.variant? = .ok name ∧
    s.variant? = name.or (project.variant?.or user.variant?)

theorem precedence_merge (v : Variables) (user project : Settings) {most : Option Nat}
    {variant : Option String} (hm : v.maxOutputLength? = .ok most) (hn : v.variant? = .ok variant) :
    Precedence v user project ((user.merge project).merge (v.layer most variant)) where
  libraryDir := by simp [Settings.libraryDir?_merge]
  fallbackDir := by simp [Settings.fallbackDir?_merge]
  maxOutputLength := ⟨most, hm, by simp [Settings.maxOutputLength?_merge]⟩
  timeCost := by simp [Settings.timeCost?_merge]
  memoryCost := by simp [Settings.memoryCost?_merge]
  parallelism := by simp [Settings.parallelism?_merge]
  outputLength := by simp [Settings.outputLength?_merge]
  variant := ⟨variant, hn, by simp [Settings.variant?_merge]⟩

namespace Loader

variable {l : Loader} {host : Host} {directory : Path} {v : Variables}

theorem precedence_of_loaded (hv : v.Of host.environment) {source : Option Path} {loaded : Loaded}
    (hl : l.layered host source = .ok loaded) :
    loaded.source = source ∧ ∃ user project,
      Settings.ofFile host (l.userSource host) = .ok user ∧
      Settings.ofFile host source = .ok project ∧ Precedence v user project loaded.settings := by
  have ho := outcome_layered hv l source
  rw [hl] at ho
  cases ho with
  | loaded hu hp hm hn hi => exact ⟨rfl, _, _, hu, hp, precedence_merge v _ _ hm hn⟩

/-- Loading from a directory where the variables hold text ends as the rules say: it succeeds where
every stage does, with the three layers merged, and fails with the failure of the first stage that
fails. Each value of what is loaded comes from the topmost layer that sets it. -/
theorem loadDirectory_layers (hv : v.Of host.environment) (l : Loader) (directory : Path) :
    (∀ r, (l.loadDirectory host directory).1 = r ↔
      Outcome host v (l.userSource host) (projectSource host directory) r) ∧
    ∀ loaded, (l.loadDirectory host directory).1 = .ok loaded →
      loaded.source = projectSource host directory ∧ ∃ user project,
        Settings.ofFile host (l.userSource host) = .ok user ∧
        Settings.ofFile host loaded.source = .ok project ∧
        Precedence v user project loaded.settings := by
  have hl : (l.loadDirectory host directory).1 = l.layered host (projectSource host directory) := by
    rw [loadDirectory, findProjectFile_eq]
  rw [hl]
  constructor
  · intro r
    exact ⟨fun hr => hr ▸ outcome_layered hv l _, layered_eq_of_outcome hv⟩
  · intro loaded hr
    obtain ⟨hs, hlayers⟩ := precedence_of_loaded hv hr
    exact ⟨hs, hs ▸ hlayers⟩

/-- The user's file sets a ceiling and a variant, the project's file, one directory up, an output
length, and the environment another variant. -/
theorem loadDirectory_layers_argon2id :
    let v : Variables := ⟨none, none, some "Argon2ID"⟩
    let host : Host := {
      tree := ⟨[(Bytes.ofText "argon2.toml", .file (Bytes.ofText "defaults.output_len = 32")),
        (Bytes.ofText "user.toml", .file (Bytes.ofText
          "limits.max_output_len = 64\ndefaults.variant = 'argon2d'"))]⟩
      environment := Environment.empty.set variantVariable (Bytes.ofText "Argon2ID")
      workingDirectory := []
      accountHome := none
      executableDirectory := none }
    let l : Loader := ⟨some (Path.ofText "/user.toml")⟩
    let directory := Path.ofText "/srv"
    let loaded : Loaded := ⟨{
      limits := some { maxOutputLength := some 64 }
      defaults := some { outputLength := some 32, variant := some "argon2id" } },
      some (Path.ofText "/argon2.toml")⟩
    v.Of host.environment ∧ (l.loadDirectory host directory).1 = .ok loaded ∧
      Outcome host v (l.userSource host) (projectSource host directory) (.ok loaded) ∧
      ∃ user project, Settings.ofFile host (l.userSource host) = .ok user ∧
        Settings.ofFile host loaded.source = .ok project ∧
        Precedence v user project loaded.settings := by
  intro v host l directory loaded
  have hv : v.Of host.environment := ⟨by decide, by decide, by decide⟩
  have hl : (l.loadDirectory host directory).1 = .ok loaded :=
    eq_ok_of_toOption (by decide +kernel)
  obtain ⟨houtcome, hlayers⟩ := loadDirectory_layers hv l directory
  exact ⟨hv, hl, (houtcome _).mp hl, (hlayers loaded hl).2⟩

end Loader
end Argon2Native.Config
