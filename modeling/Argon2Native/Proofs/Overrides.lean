import Argon2Native.Proofs.Loaded
/-!
The variables as overrides. One that holds text decides its setting in whatever is loaded, and the
search for the library starts where the settings say. One that holds octets that are no text is
passed over in loading, as if it were unset; but the search for the library takes its directory as
it stands.

Main statements: `loading_overrides`, and `override_lost` for what holds no text.
-/
namespace Argon2Native

theorem Environment.text?_eq_some_iff {env : Environment} {name text : String} :
    env.text? name = some text ↔ env.octets? name = some (Bytes.ofText text) := by
  rw [text?, Option.bind_eq_some_iff]
  constructor
  · rintro ⟨octets, ho, ht⟩
    rw [ho, Bytes.text?_eq_some_iff.mp ht]
  · intro ho
    exact ⟨_, ho, Bytes.text?_ofText text⟩

theorem Environment.text?_of_value? {env : Environment} {name text : String}
    (h : env.value? name = some (Bytes.ofText text)) (hne : text ≠ "") :
    env.text? name = some text := by
  have hb : Bytes.ofText text ≠ [] := mt Config.ofText_eq_nil_iff.mp hne
  rw [text?_eq_some_iff, octets?, h, Option.filter_some_pos (by simpa using hb)]

theorem Environment.text?_of_unset {env : Environment} {name : String}
    (h : env.value? name = none) : env.text? name = none := by
  rw [text?, octets?, h]
  rfl

namespace Config

open Native (Resolver)

def overriding : List String := [libraryDirVariable, maxOutputLengthVariable, variantVariable]

/-- The environment without those of the three variables that hold no text. -/
def legible (env : Environment) : Environment :=
  ⟨fun name =>
    if name ∈ overriding then (env.value? name).filter fun octets => (Bytes.text? octets).isSome
    else env.value? name⟩

theorem value?_legible_eq_some_iff {env : Environment} {name text : String} :
    (legible env).value? name = some (Bytes.ofText text) ↔
      env.value? name = some (Bytes.ofText text) := by
  simp only [legible]
  split
  · simp [Option.filter_eq_some_iff, Bytes.text?_ofText]
  · exact Iff.rfl

theorem text?_legible (env : Environment) (name : String) :
    (legible env).text? name = env.text? name := by
  refine Option.ext fun text => ?_
  rw [Environment.text?_eq_some_iff, Environment.text?_eq_some_iff, Environment.octets?,
    Environment.octets?, Option.filter_eq_some_iff, Option.filter_eq_some_iff,
    value?_legible_eq_some_iff]

def heard (env : Environment) : Variables where
  libraryDir := (env.value? libraryDirVariable).bind Bytes.text?
  maxOutputLength := (env.value? maxOutputLengthVariable).bind Bytes.text?
  variant := (env.value? variantVariable).bind Bytes.text?

theorem value?_legible {env : Environment} {name : String} (hn : name ∈ overriding) :
    (legible env).value? name = ((env.value? name).bind Bytes.text?).map Bytes.ofText := by
  simp only [legible, if_pos hn]
  cases env.value? name with
  | none => rfl
  | some octets =>
    cases ht : Bytes.text? octets with
    | none => rw [Option.filter_some_neg (by simp [ht]), Option.bind_some, ht, Option.map_none]
    | some text =>
      rw [Option.filter_some_pos (by simp [ht]), Option.bind_some, ht, Option.map_some,
        Bytes.ofText_of_text? ht]

theorem heard_of_legible (env : Environment) : (heard env).Of (legible env) where
  libraryDir := value?_legible (by decide)
  maxOutputLength := value?_legible (by decide)
  variant := value?_legible (by decide)

theorem given_heard (env : Environment) :
    Variables.given (heard env).libraryDir = env.text? libraryDirVariable ∧
      Variables.given (heard env).maxOutputLength = env.text? maxOutputLengthVariable ∧
      Variables.given (heard env).variant = env.text? variantVariable := by
  have hv := heard_of_legible env
  rw [← text?_eq_given hv.libraryDir, ← text?_eq_given hv.maxOutputLength,
    ← text?_eq_given hv.variant, text?_legible, text?_legible, text?_legible]
  exact ⟨rfl, rfl, rfl⟩

theorem layer_heard (env : Environment) (most : Option Nat) (variant : Option String) :
    (heard env).layer most variant =
      { library := (env.text? libraryDirVariable).map fun dir => { dir := some (Path.ofText dir) }
        limits := most.map fun n => { maxOutputLength := some n }
        defaults := variant.map fun name => { variant := some name } } := by
  rw [Variables.layer, Variables.libraryDir?, (given_heard env).1, Option.map_map]
  rfl

theorem mapM_eq_ok_some {α : Type} {read : String → Except Failure α} {value : Option String}
    {a : α} (h : value.mapM read = .ok (some a)) : ∃ text, read text = .ok a := by
  cases value with
  | none => cases h
  | some text =>
    rw [Option.mapM_some] at h
    obtain ⟨b, hb, he⟩ := map_eq_ok_iff.mp h
    exact ⟨text, by rw [hb, Option.some.inj he]⟩

theorem readMaxOutputLength_eq_ok_iff {text : String} {n : Nat} :
    readMaxOutputLength text = .ok n ↔
      byteCount? text = some n ∧ leastOutputLength ≤ n ∧ n ≤ mostOutputLength := by
  rw [readMaxOutputLength, ← ceilingFault?_eq_none_iff]
  cases byteCount? text with
  | none => simp
  | some m =>
    cases hm : ceilingFault? m with
    | none => grind
    | some fault => grind

theorem readVariant_eq_ok_iff {text name : String} :
    readVariant text = .ok name ↔ Lowercase.full text = name ∧ ∃ v : Variant, name = v.name := by
  rw [readVariant, ← variantFault?_eq_none_iff]
  cases hn : variantFault? (Lowercase.full text) with
  | none => grind
  | some fault => grind

/-- What is read from the variables is valid on its own. -/
theorem Variables.valid_layer {v : Variables} {most : Option Nat} {variant : Option String}
    (hm : v.maxOutputLength? = .ok most) (hn : v.variant? = .ok variant) :
    (v.layer most variant).Valid where
  maxOutputLength n h := by
    rw [maxOutputLength?_layer] at h
    obtain ⟨text, ht⟩ := mapM_eq_ok_some (h ▸ hm)
    exact (readMaxOutputLength_eq_ok_iff.mp ht).2
  timeCost cost h := by simp at h
  memoryCost cost h := by simp at h
  parallelism cost h := by simp at h
  outputLength n h := by simp at h
  variant name h := by
    rw [variant?_layer] at h
    obtain ⟨text, ht⟩ := mapM_eq_ok_some (h ▸ hn)
    exact (readVariant_eq_ok_iff.mp ht).2

/-- Settings in which every variable that holds text has decided its value. The search for the
library starts where they say, if the variable for that holds no other octets than text. -/
structure Overridden (env : Environment) (s : Settings) : Prop where
  libraryDir : ∀ text, env.octets? libraryDirVariable = some (Bytes.ofText text) →
    s.libraryDir? = some (Path.ofText text)
  maxOutputLength : ∀ text, env.octets? maxOutputLengthVariable = some (Bytes.ofText text) →
    ∃ n, readMaxOutputLength text = .ok n ∧ s.maxOutputLength? = some n
  variant : ∀ text, env.octets? variantVariable = some (Bytes.ofText text) →
    ∃ name, readVariant text = .ok name ∧ s.variant? = some name
  searchDir : (∀ octets, env.octets? libraryDirVariable = some octets →
      ∃ text, octets = Bytes.ofText text) →
    (Resolver.ofSettings env s).searchDir = s.libraryDir?

namespace Settings

variable {base s : Settings} {env : Environment}

/-- The three variables are read as text and in no other way, and no other variable is read. -/
theorem withEnvironment_congr {env' : Environment}
    (h : ∀ name ∈ overriding, env'.text? name = env.text? name) (s : Settings) :
    s.withEnvironment env' = s.withEnvironment env := by
  simp only [overriding, List.forall_mem_cons, List.not_mem_nil, false_implies, implies_true,
    and_true] at h
  obtain ⟨hdir, hlength, hvariant⟩ := h
  simp only [withEnvironment_eq_bind, hdir, hlength, hvariant]

theorem withEnvironment_legible (s : Settings) (env : Environment) :
    s.withEnvironment (legible env) = s.withEnvironment env :=
  withEnvironment_congr (fun name _ => text?_legible env name) s

/-- What the variables add to settings is a layer of what was heard of them. -/
theorem eq_merge_of_withEnvironment (h : base.withEnvironment env = .ok s) :
    ∃ most variant, (heard env).maxOutputLength? = .ok most ∧ (heard env).variant? = .ok variant ∧
      s = base.merge ((heard env).layer most variant) := by
  rw [← withEnvironment_legible, withEnvironment_eq (heard_of_legible env)] at h
  obtain ⟨most, hm, h⟩ := bind_eq_ok_iff.mp h
  obtain ⟨variant, hn, h⟩ := bind_eq_ok_iff.mp h
  obtain ⟨-, -, rfl⟩ := map_eq_ok_iff.mp h
  exact ⟨most, variant, hm, hn, rfl⟩

/-- Overrides reach whatever settings they are laid over. -/
theorem overridden_of_withEnvironment (h : base.withEnvironment env = .ok s) :
    Overridden env s := by
  obtain ⟨most, variant, hm, hn, rfl⟩ := eq_merge_of_withEnvironment h
  obtain ⟨hgivenDir, hgivenLength, hgivenVariant⟩ := given_heard env
  have hdir : ∀ text, env.octets? libraryDirVariable = some (Bytes.ofText text) →
      (base.merge ((heard env).layer most variant)).libraryDir? = some (Path.ofText text) := by
    intro text ht
    have hd : (heard env).libraryDir? = some (Path.ofText text) := by
      rw [Variables.libraryDir?, hgivenDir, Environment.text?_eq_some_iff.mpr ht, Option.map_some]
    rw [libraryDir?_merge, Variables.libraryDir?_layer, hd, Option.some_or]
  refine ⟨hdir, ?_, ?_, ?_⟩
  · intro text ht
    rw [Variables.maxOutputLength?, hgivenLength, Environment.text?_eq_some_iff.mpr ht,
      Option.mapM_some] at hm
    obtain ⟨n, hn, rfl⟩ := map_eq_ok_iff.mp hm
    exact ⟨n, hn, by rw [maxOutputLength?_merge, Variables.maxOutputLength?_layer, Option.some_or]⟩
  · intro text ht
    rw [Variables.variant?, hgivenVariant, Environment.text?_eq_some_iff.mpr ht,
      Option.mapM_some] at hn
    obtain ⟨name, hname, rfl⟩ := map_eq_ok_iff.mp hn
    exact ⟨name, hname, by rw [variant?_merge, Variables.variant?_layer, Option.some_or]⟩
  · intro htext
    rw [Resolver.ofSettings, Resolver.environmentDir?]
    cases ho : env.octets? libraryDirVariable with
    | none => rfl
    | some octets =>
      obtain ⟨text, rfl⟩ := htext octets ho
      exact (hdir text ho).symm

end Settings

namespace Loader

def hearing (host : Host) : Host := { host with environment := legible host.environment }

/-- The files do not depend on the three variables, nor does where the user's file is. -/
theorem layered_hearing (l : Loader) (host : Host) (source : Option Path) :
    l.layered (hearing host) source = l.layered host source := by
  have hmem : "HOME" ∉ overriding := by decide
  have hhome : (hearing host).home? = host.home? := by
    simp only [Host.home?, hearing, Environment.octets?, legible, if_neg hmem]
  have hsource : l.userSource (hearing host) = l.userSource host := by
    unfold userSource userFile
    rw [hhome]
    rfl
  have hfile (file : Option Path) :
      Settings.ofFile (hearing host) file = Settings.ofFile host file := by
    cases file <;> rfl
  exact layered_congr (by rw [hsource, hfile]) (hfile source)
    fun s => Settings.withEnvironment_legible s host.environment

/-- Alone the environment gives a layer of the texts that its variables hold. -/
theorem loadEnvironment_eq (host : Host) :
    loadEnvironment host =
      ((host.environment.text? maxOutputLengthVariable).mapM readMaxOutputLength).bind fun most =>
      ((host.environment.text? variantVariable).mapM readVariant).map fun variant =>
        ⟨{ library := (host.environment.text? libraryDirVariable).map fun dir =>
            { dir := some (Path.ofText dir) }
           limits := most.map fun n => { maxOutputLength := some n }
           defaults := variant.map fun name => { variant := some name } }, none⟩ := by
  have hload : loadEnvironment host =
      (Settings.empty.withEnvironment host.environment).map fun s => ⟨s, none⟩ := by
    unfold loadEnvironment
    cases Settings.empty.withEnvironment host.environment <;> rfl
  obtain ⟨-, hlength, hvariant⟩ := given_heard host.environment
  rw [hload, ← Settings.withEnvironment_legible,
    Settings.withEnvironment_eq (heard_of_legible host.environment), ← hlength, ← hvariant]
  change Except.map _ ((heard host.environment).maxOutputLength?.bind _) =
    (heard host.environment).maxOutputLength?.bind fun most =>
      (heard host.environment).variant?.map _
  cases hm : (heard host.environment).maxOutputLength? with
  | error f => rfl
  | ok most =>
    cases hn : (heard host.environment).variant? with
    | error f => rfl
    | ok variant =>
      have hvalid := Settings.validate_eq_ok_iff.mpr (Variables.valid_layer hm hn)
      simp only [Except.bind, Settings.empty_merge, hvalid, ← layer_heard]
      rfl

/-- A variable that holds no text is as one that is unset, in every way of loading. Whatever is
loaded, every variable that holds text has decided its value there; and the search for the library
starts at the directory that was loaded, if the variable for it holds no other octets than text. -/
theorem loading_overrides (host : Host) :
    (∀ (l : Loader) (path : Path),
      (l.loadDirectory host path).1 = (l.loadDirectory (hearing host) path).1 ∧
      (l.loadFile host path).1 = (l.loadFile (hearing host) path).1 ∧
      loadEnvironment host = loadEnvironment (hearing host)) ∧
    ∀ loaded : Loaded,
      (∃ (l : Loader) (path : Path), (l.loadDirectory host path).1 = .ok loaded ∨
        (l.loadFile host path).1 = .ok loaded ∨ loadEnvironment host = .ok loaded) →
      Overridden host.environment loaded.settings := by
  constructor
  · intro l path
    refine ⟨(layered_hearing l host _).symm, (layered_hearing l host (some path)).symm, ?_⟩
    simp only [loadEnvironment, hearing, Settings.withEnvironment_legible]
  · rintro loaded ⟨l, path, h⟩
    have hbase : ∃ base : Settings,
        base.withEnvironment host.environment = .ok loaded.settings := by
      rcases h with h | h | h
      · exact exists_base_of_layered h
      · have hl : l.layered host (some path) = .ok loaded := h
        exact exists_base_of_layered hl
      · exact ⟨.empty, withEnvironment_of_loadEnvironment h⟩
    obtain ⟨base, hs⟩ := hbase
    exact Settings.overridden_of_withEnvironment hs

/-- A directory beyond ASCII, and a length and a variant in odd spellings, over a file that sets
all three. -/
theorem loading_overrides_argon2id :
    let env := ((Environment.empty.set libraryDirVariable (Bytes.ofText "/opt/bücher")).set
      maxOutputLengthVariable (Bytes.ofText " +64 ")).set variantVariable (Bytes.ofText "Argon2ID")
    let file := Path.ofText "/argon2.toml"
    let host : Host := {
      tree := ⟨[(Bytes.ofText "argon2.toml", .file (Bytes.ofText
        "library.dir = '/lib'\nlimits.max_output_len = 8\ndefaults.variant = 'argon2d'"))]⟩
      environment := env
      workingDirectory := []
      accountHome := none
      executableDirectory := none }
    let l : Loader := {}
    let loaded : Loaded := ⟨{
      library := some { dir := some (Path.ofText "/opt/bücher") }
      limits := some { maxOutputLength := some 64 }
      defaults := some { variant := some "argon2id" } }, some file⟩
    (l.loadFile host file).1 = .ok loaded ∧ Overridden env loaded.settings := by
  intro env file host l loaded
  have hl : (l.loadFile host file).1 = .ok loaded := eq_ok_of_toOption (by decide +kernel)
  exact ⟨hl, (loading_overrides host).2 loaded ⟨l, file, .inr (.inl hl)⟩⟩

/-- Where the variables for the directory and for the ceiling hold octets that are no text, loading
succeeds without a word of either; but the search for the library starts at that directory, not at
the one that was loaded. -/
theorem override_lost :
    let env := (Environment.empty.set libraryDirVariable [0xFF]).set maxOutputLengthVariable [0xFF]
    let host : Host := {
      tree := FileTree.empty
      environment := env
      workingDirectory := []
      accountHome := none
      executableDirectory := none }
    let loaded : Loaded := ⟨.empty, none⟩
    env.octets? libraryDirVariable = some [0xFF] ∧
      env.octets? maxOutputLengthVariable = some [0xFF] ∧
      loadEnvironment host = .ok loaded ∧ loaded.settings.libraryDir? = none ∧
      loaded.settings.maxOutputLength? = none ∧
      (Resolver.ofSettings env loaded.settings).searchDir = some ⟨[0xFF]⟩ := by
  intro env host loaded
  have hl : loadEnvironment host = .ok loaded := eq_ok_of_toOption (by decide +kernel)
  exact ⟨rfl, rfl, hl, rfl, rfl, rfl⟩

end Loader
end Config
end Argon2Native
