import Argon2Native.EncodedHash
import Argon2Native.Proofs.Base64
/-!
The grammar of encoded hashes. Every part is read back by the reader of its own kind, a dollar sign
or a comma occurs in no part, and so the text is cut where it was joined.

Main statement: `parse_inverts_render`, a text is read as an encoded hash exactly when it is the
written form of that hash.
-/
namespace Argon2Native.EncodedHash

theorem splitOn_eq_iff {a : Char} {cs : List Char} {parts : List (List Char)}
    (hne : parts ≠ []) (ha : ∀ part ∈ parts, a ∉ part) :
    cs.splitOn a = parts ↔ cs = [a].intercalate parts := by
  constructor
  · intro h
    subst h
    exact (List.intercalate_splitOn a).symm
  · intro h
    subst h
    exact List.splitOn_intercalate a ha hne

theorem not_mem_renderField {key : List Char} {n : UInt32} {c : Char} (hk : c ∉ key)
    (hc : c.isDigit = false) : c ∉ renderField key n := by
  intro h
  rcases List.mem_append.mp h with h | h
  · exact hk h
  · simp [Decimal.isDigit_of_mem_render h] at hc

theorem parseField?_eq_some_iff {key field : List Char} {n : UInt32} :
    parseField? key field = some n ↔ field = renderField key n := by
  unfold parseField?
  constructor
  · intro h
    split at h
    · rename_i hp
      obtain ⟨digits, rfl⟩ := List.isPrefixOf_iff_prefix.mp hp
      rw [List.drop_left, Decimal.word?_eq_some_iff] at h
      rw [h, renderField]
    · cases h
  · intro h
    subst h
    rw [renderField, if_pos (List.isPrefixOf_iff_prefix.mpr (List.prefix_append _ _)),
      List.drop_left, Decimal.word?_eq_some_iff]

theorem splitOn_renderCosts (e : EncodedHash) :
    e.renderCosts.splitOn ',' = [renderField memoryKey e.memoryCost, renderField timeKey e.timeCost,
      renderField lanesKey e.parallelism] := by
  refine (splitOn_eq_iff (by simp) ?_).mpr rfl
  intro part hp
  simp only [List.mem_cons, List.not_mem_nil, or_false] at hp
  rcases hp with rfl | rfl | rfl <;> exact not_mem_renderField (by decide) (by decide)

theorem parseCosts?_eq_some_iff {segment : List Char} {e : EncodedHash} :
    parseCosts? segment = some (e.memoryCost, e.timeCost, e.parallelism) ↔
      segment = e.renderCosts := by
  constructor
  · intro h
    unfold parseCosts? at h
    split at h
    · rename_i m t p hs
      simp only [bind, Option.bind_eq_some_iff] at h
      obtain ⟨m', hm, t', ht, p', hp, he⟩ := h
      obtain ⟨rfl, rfl, rfl⟩ : m' = e.memoryCost ∧ t' = e.timeCost ∧ p' = e.parallelism := by
        simpa [pure] using he
      have hj : [','].intercalate (segment.splitOn ',') = segment := List.intercalate_splitOn ','
      rw [← hj, hs, parseField?_eq_some_iff.mp hm, parseField?_eq_some_iff.mp ht,
        parseField?_eq_some_iff.mp hp]
      rfl
    · cases h
  · intro h
    subst h
    simp [parseCosts?, splitOn_renderCosts, parseField?_eq_some_iff.mpr rfl]

theorem assemble?_eq_some_iff {name costs salt hash : List Char} {version : Option UInt32}
    {e : EncodedHash} :
    assemble? name version costs salt hash = some e ↔
      name = e.variant.name.toList ∧ version = e.version ∧ costs = e.renderCosts ∧
        salt = Base64.encode e.salt ∧ hash = Base64.encode e.hash := by
  constructor
  · intro h
    simp only [assemble?, bind, Option.bind_eq_some_iff] at h
    obtain ⟨variant, hv, ⟨m, t, p⟩, hc, s, hs, d, hd, he⟩ := h
    obtain rfl := Option.some.inj he
    refine ⟨?_, rfl, parseCosts?_eq_some_iff.mp hc, Base64.decode?_eq_some_iff.mp hs,
      Base64.decode?_eq_some_iff.mp hd⟩
    rw [← Variant.named?_eq_some_iff.mp hv, String.toList_ofList]
  · intro h
    obtain ⟨rfl, rfl, rfl, rfl, rfl⟩ := h
    simp [assemble?, Variant.named?_name, parseCosts?_eq_some_iff.mpr rfl, Base64.decode?_encode]

theorem segments_of_version_none {e : EncodedHash} (h : e.version = none) :
    e.segments = [[], e.variant.name.toList, e.renderCosts, Base64.encode e.salt,
      Base64.encode e.hash] := by
  simp [segments, h]

theorem segments_of_version_some {e : EncodedHash} {v : UInt32} (h : e.version = some v) :
    e.segments = [[], e.variant.name.toList, renderField versionKey v, e.renderCosts,
      Base64.encode e.salt, Base64.encode e.hash] := by
  simp [segments, h]

theorem ofSegments?_segments (e : EncodedHash) : ofSegments? e.segments = some e := by
  cases hv : e.version with
  | none =>
    rw [segments_of_version_none hv]
    exact assemble?_eq_some_iff.mpr ⟨rfl, hv.symm, rfl, rfl, rfl⟩
  | some v =>
    rw [segments_of_version_some hv]
    simp only [ofSegments?, parseField?_eq_some_iff.mpr rfl]
    exact assemble?_eq_some_iff.mpr ⟨rfl, hv.symm, rfl, rfl, rfl⟩

theorem eq_segments_of_ofSegments? {parts : List (List Char)} {e : EncodedHash}
    (h : ofSegments? parts = some e) : parts = e.segments := by
  unfold ofSegments? at h
  split at h
  · obtain ⟨rfl, hv, rfl, rfl, rfl⟩ := assemble?_eq_some_iff.mp h
    rw [segments_of_version_none hv.symm]
  · obtain ⟨v, hf, ha⟩ := Option.bind_eq_some_iff.mp h
    obtain ⟨rfl, hv, rfl, rfl, rfl⟩ := assemble?_eq_some_iff.mp ha
    rw [segments_of_version_some hv.symm, parseField?_eq_some_iff.mp hf]
  · cases h

def IsPlain (c : Char) : Prop := 0 < c.toNat ∧ c.toNat < 128 ∧ c ≠ '$'

instance (c : Char) : Decidable (IsPlain c) := inferInstanceAs (Decidable (_ ∧ _ ∧ _))

theorem forall_isPlain_of_all {l : List Char} (h : l.all fun c => decide (IsPlain c)) :
    ∀ c ∈ l, IsPlain c := by
  simpa using h

theorem isPlain_of_isDigit {c : Char} (h : c.isDigit) : IsPlain c := by
  have hb : 48 ≤ c.toNat ∧ c.toNat ≤ 57 := by
    simpa [Char.isDigit, UInt32.le_iff_toNat_le] using h
  refine ⟨by omega, by omega, ?_⟩
  intro hc
  subst hc
  exact absurd h (by decide)

theorem isPlain_of_mem_renderField {key : List Char} {n : UInt32} (hk : ∀ c ∈ key, IsPlain c) :
    ∀ c ∈ renderField key n, IsPlain c := by
  intro c hc
  rcases List.mem_append.mp hc with h | h
  · exact hk c h
  · exact isPlain_of_isDigit (Decimal.isDigit_of_mem_render h)

theorem isPlain_of_mem_encode (b : Bytes) : ∀ c ∈ Base64.encode b, IsPlain c := by
  have h : ∀ n, IsPlain (Base64.symbol n) := by decide
  intro c hc
  obtain ⟨n, rfl⟩ := Base64.exists_sextet_of_mem_encode hc
  exact h n

theorem isPlain_of_mem_name (v : Variant) : ∀ c ∈ v.name.toList, IsPlain c := by
  refine forall_isPlain_of_all ?_
  cases v <;> decide

theorem forall_mem_intercalate {P : Char → Prop} {separator : Char} {parts : List (List Char)}
    (hs : P separator) (hp : ∀ part ∈ parts, ∀ c ∈ part, P c) :
    ∀ c ∈ [separator].intercalate parts, P c := by
  induction parts with
  | nil => simp
  | cons part parts ih =>
    have ht := ih fun q hq => hp q (List.mem_cons_of_mem part hq)
    intro c hc
    cases parts with
    | nil => exact hp part (by simp) c (by simpa using hc)
    | cons next parts =>
      rw [List.intercalate_cons_cons, List.append_assoc, List.mem_append] at hc
      rcases hc with h | h
      · exact hp part (by simp) c h
      · rcases List.mem_cons.mp h with rfl | h
        · exact hs
        · exact ht c h

theorem isPlain_of_mem_renderCosts (e : EncodedHash) : ∀ c ∈ e.renderCosts, IsPlain c := by
  refine forall_mem_intercalate (by decide) ?_
  intro part hp
  simp only [List.mem_cons, List.not_mem_nil, or_false] at hp
  rcases hp with rfl | rfl | rfl <;>
    exact isPlain_of_mem_renderField (forall_isPlain_of_all (by decide))

theorem isPlain_of_mem_segments (e : EncodedHash) :
    ∀ part ∈ e.segments, ∀ c ∈ part, IsPlain c := by
  intro part hp
  simp only [segments, List.mem_append, List.mem_cons, List.not_mem_nil, or_false,
    Option.mem_toList, Option.map_eq_some_iff] at hp
  rcases hp with ((rfl | rfl) | ⟨v, -, rfl⟩) | rfl | rfl | rfl
  · simp
  · exact isPlain_of_mem_name e.variant
  · exact isPlain_of_mem_renderField (forall_isPlain_of_all (by decide))
  · exact isPlain_of_mem_renderCosts e
  · exact isPlain_of_mem_encode e.salt
  · exact isPlain_of_mem_encode e.hash

theorem dollar_not_mem_segments (e : EncodedHash) : ∀ part ∈ e.segments, '$' ∉ part :=
  fun part hp h => (e.isPlain_of_mem_segments part hp '$' h).2.2 rfl

theorem segments_ne_nil (e : EncodedHash) : e.segments ≠ [] := by simp [segments]

theorem parse?_eq_some_iff {s : String} {e : EncodedHash} : parse? s = some e ↔ s = e.render := by
  have hsplit : s.toList.splitOn '$' = e.segments ↔ s.toList = ['$'].intercalate e.segments :=
    splitOn_eq_iff (segments_ne_nil e) (dollar_not_mem_segments e)
  constructor
  · intro h
    rw [render, renderChars, ← hsplit.mp (eq_segments_of_ofSegments? h), String.ofList_toList]
  · intro h
    subst h
    rw [parse?, hsplit.mpr (by rw [render, String.toList_ofList, renderChars]),
      ofSegments?_segments]

theorem parse_eq_ok_iff {s : String} {e : EncodedHash} : parse s = .ok e ↔ s = e.render := by
  rw [← parse?_eq_some_iff, parse]
  cases parse? s <;> simp

theorem parse_eq_error_iff {s : String} {f : Failure} :
    parse s = .error f ↔ f = .native .decodingFail ∧ ∀ e : EncodedHash, s ≠ e.render := by
  simp only [ne_eq, ← parse?_eq_some_iff, parse]
  cases parse? s <;> simp [eq_comm]

/-- The form in full; the segment of the version is there only for a hash that has one. -/
theorem render_eq (e : EncodedHash) :
    e.render = "$" ++ e.variant.name ++ (e.version.elim "" fun v => "$v=" ++ toString v.toNat) ++
      "$m=" ++ toString e.memoryCost.toNat ++ ",t=" ++ toString e.timeCost.toNat ++
      ",p=" ++ toString e.parallelism.toNat ++
      "$" ++ String.ofList (Base64.encode e.salt) ++
      "$" ++ String.ofList (Base64.encode e.hash) := by
  apply String.toList_inj.mp
  cases hv : e.version with
  | none =>
    simp [render, renderChars, segments_of_version_none hv, renderCosts, renderField,
      Decimal.render, memoryKey, timeKey, lanesKey]
  | some v =>
    simp [render, renderChars, segments_of_version_some hv, renderCosts, renderField,
      Decimal.render, memoryKey, timeKey, lanesKey, versionKey]

/-- Both ways through the grammar: the one text of an encoded hash is its written form, and a text
that is no written form is refused as the native decoder refuses it. -/
theorem parse_inverts_render (s : String) :
    (∀ e : EncodedHash, parse s = .ok e ↔ s = e.render) ∧
    (parse s = .error (.native .decodingFail) ↔ ∀ e : EncodedHash, s ≠ e.render) ∧
    ∀ e : EncodedHash, e.render =
      "$" ++ e.variant.name ++ (e.version.elim "" fun v => "$v=" ++ toString v.toNat) ++
        "$m=" ++ toString e.memoryCost.toNat ++ ",t=" ++ toString e.timeCost.toNat ++
        ",p=" ++ toString e.parallelism.toNat ++
        "$" ++ String.ofList (Base64.encode e.salt) ++
        "$" ++ String.ofList (Base64.encode e.hash) := by
  refine ⟨fun e => parse_eq_ok_iff, ?_, render_eq⟩
  rw [parse_eq_error_iff, and_iff_right rfl]

end Argon2Native.EncodedHash
