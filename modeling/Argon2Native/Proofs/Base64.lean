import Argon2Native.Text.Base64
/-!
Unpadded base64: reading inverts writing, only the written form of an octet string reads back, and
the length of the text depends on the number of octets alone.

Main statements: `decode?_eq_some_iff` and `length_encode`.
-/
namespace Argon2Native.Base64

theorem value?_sextet (n : Nat) : value? (sextet n) = some (n % 64) := by
  have h : ∀ k : Fin 64, value? (symbol k) = some k.val := by decide
  exact h (Fin.ofNat 64 n)

theorem sextet_congr {m n : Nat} (h : m % 64 = n % 64) : sextet m = sextet n := by
  simp [sextet, Fin.ofNat, h]

theorem toNat_sextet :
    (∀ n < 26, (sextet (n + 0)).toNat = n + 65) ∧ (∀ n < 26, (sextet (n + 26)).toNat = n + 97) ∧
      ∀ n < 10, (sextet (n + 52)).toNat = n + 48 := by
  decide

/-- Symbols stand in ranges of consecutive characters, so the place in a range tells the value. -/
theorem eq_sextet_of_range {c : Char} {first least count : Nat}
    (hrange : ∀ n < count, (sextet (n + first)).toNat = n + least) (hl : least ≤ c.toNat)
    (hm : c.toNat < least + count) (hf : first + count ≤ 64) :
    c.toNat - least + first < 64 ∧ c = sextet (c.toNat - least + first) := by
  refine ⟨by omega, Char.toNat_inj.mp ?_⟩
  rw [hrange _ (by omega)]
  omega

theorem eq_sextet_of_value? {c : Char} {n : Nat} (h : value? c = some n) :
    n < 64 ∧ c = sextet n := by
  obtain ⟨hupper, hlower, hdigit⟩ := toNat_sextet
  simp only [value?, Char.le_def, UInt32.le_iff_toNat_le] at h
  split at h
  · rename_i hc
    obtain rfl := Option.some.inj h
    exact eq_sextet_of_range hupper hc.1 (Nat.lt_succ_of_le hc.2) (by decide)
  split at h
  · rename_i hc
    obtain rfl := Option.some.inj h
    exact eq_sextet_of_range hlower hc.1 (Nat.lt_succ_of_le hc.2) (by decide)
  split at h
  · rename_i hc
    obtain rfl := Option.some.inj h
    exact eq_sextet_of_range hdigit hc.1 (Nat.lt_succ_of_le hc.2) (by decide)
  split at h
  · rename_i hc
    obtain rfl := Option.some.inj h
    exact ⟨by decide, hc⟩
  split at h
  · rename_i hc
    obtain rfl := Option.some.inj h
    exact ⟨by decide, hc⟩
  · cases h

theorem encode_one (a : UInt8) :
    encode [a] = [sextet (a.toNat * 16 / 64), sextet (a.toNat * 16)] := rfl

theorem encode_two (a b : UInt8) :
    encode [a, b] = [sextet ((a.toNat * 256 + b.toNat) * 4 / 4096),
      sextet ((a.toNat * 256 + b.toNat) * 4 / 64), sextet ((a.toNat * 256 + b.toNat) * 4)] := rfl

theorem encode_three (a b c : UInt8) :
    encode [a, b, c] = [sextet (((a.toNat * 256 + b.toNat) * 256 + c.toNat) / 262144),
      sextet (((a.toNat * 256 + b.toNat) * 256 + c.toNat) / 4096),
      sextet (((a.toNat * 256 + b.toNat) * 256 + c.toNat) / 64),
      sextet ((a.toNat * 256 + b.toNat) * 256 + c.toNat)] := rfl

theorem toUInt8_eq {n : Nat} {a : UInt8} (h : n % 256 = a.toNat) : n.toUInt8 = a := by
  apply UInt8.toNat_inj.mp
  simpa using h

theorem decode?_encode_one (a : UInt8) : decode? (encode [a]) = some [a] := by
  have ha := a.toNat_lt
  rw [encode_one]
  simp only [decode?, decodeOnto, value?_sextet]
  rw [if_pos (by omega), toUInt8_eq (a := a) (by omega)]
  rfl

theorem decode?_encode_two (a b : UInt8) : decode? (encode [a, b]) = some [a, b] := by
  have ha := a.toNat_lt
  have hb := b.toNat_lt
  rw [encode_two]
  simp only [decode?, decodeOnto, value?_sextet]
  rw [if_pos (by omega), toUInt8_eq (a := b) (by omega), toUInt8_eq (a := a) (by omega)]
  rfl

theorem decode?_encode_three (a b c : UInt8) : decode? (encode [a, b, c]) = some [a, b, c] := by
  have ha := a.toNat_lt
  have hb := b.toNat_lt
  have hc := c.toNat_lt
  rw [encode_three]
  simp only [decode?, decodeOnto, value?_sextet]
  rw [toUInt8_eq (a := c) (by omega), toUInt8_eq (a := b) (by omega),
    toUInt8_eq (a := a) (by omega)]
  rfl

theorem decode?_encode : (b : Bytes) → decode? (encode b) = some b
  | [] => rfl
  | [a] => decode?_encode_one a
  | [a, b] => decode?_encode_two a b
  | a :: b :: c :: rest => by
    rw [encode_cons_three, encode_three]
    simp only [List.cons_append, List.nil_append]
    rw [decode?_cons_four, ← encode_three, decode?_encode_three, decode?_encode rest]
    rfl

theorem encode_of_decode?_two {w x : Char} {b : Bytes} (h : decode? [w, x] = some b) :
    encode b = [w, x] := by
  simp only [decode?, decodeOnto] at h
  split at h
  · rename_i i j hi hj
    obtain ⟨hi, rfl⟩ := eq_sextet_of_value? hi
    obtain ⟨hj, rfl⟩ := eq_sextet_of_value? hj
    split at h
    · rename_i hz
      have hn : ((i * 64 + j) / 16).toUInt8.toNat * 16 = i * 64 + j := by
        simp; omega
      obtain rfl := Option.some.inj h
      simp only [List.reverse_cons, List.reverse_nil, List.nil_append, encode_one, hn]
      rw [sextet_congr (m := (i * 64 + j) / 64) (n := i) (by omega),
        sextet_congr (m := i * 64 + j) (n := j) (by omega)]
    · cases h
  · cases h

theorem encode_of_decode?_three {w x y : Char} {b : Bytes} (h : decode? [w, x, y] = some b) :
    encode b = [w, x, y] := by
  simp only [decode?, decodeOnto] at h
  split at h
  · rename_i i j k hi hj hk
    obtain ⟨hi, rfl⟩ := eq_sextet_of_value? hi
    obtain ⟨hj, rfl⟩ := eq_sextet_of_value? hj
    obtain ⟨hk, rfl⟩ := eq_sextet_of_value? hk
    split at h
    · rename_i hz
      have hn : ((((i * 64 + j) * 64 + k) / 1024).toUInt8.toNat * 256 +
          (((i * 64 + j) * 64 + k) / 4).toUInt8.toNat) * 4 = (i * 64 + j) * 64 + k := by
        simp; omega
      obtain rfl := Option.some.inj h
      simp only [List.reverse_cons, List.reverse_nil, List.nil_append, List.cons_append,
        encode_two, hn]
      rw [sextet_congr (m := ((i * 64 + j) * 64 + k) / 4096) (n := i) (by omega),
        sextet_congr (m := ((i * 64 + j) * 64 + k) / 64) (n := j) (by omega),
        sextet_congr (m := (i * 64 + j) * 64 + k) (n := k) (by omega)]
    · cases h
  · cases h

theorem encode_of_decode?_four {w x y z : Char} {b : Bytes}
    (h : decode? [w, x, y, z] = some b) :
    ∃ p q r, b = [p, q, r] ∧ encode b = [w, x, y, z] := by
  simp only [decode?, decodeOnto] at h
  split at h
  · rename_i i j k l hi hj hk hl
    obtain ⟨hi, rfl⟩ := eq_sextet_of_value? hi
    obtain ⟨hj, rfl⟩ := eq_sextet_of_value? hj
    obtain ⟨hk, rfl⟩ := eq_sextet_of_value? hk
    obtain ⟨hl, rfl⟩ := eq_sextet_of_value? hl
    have hn : (((((i * 64 + j) * 64 + k) * 64 + l) / 65536).toUInt8.toNat * 256 +
        ((((i * 64 + j) * 64 + k) * 64 + l) / 256).toUInt8.toNat) * 256 +
        (((i * 64 + j) * 64 + k) * 64 + l).toUInt8.toNat = ((i * 64 + j) * 64 + k) * 64 + l := by
      simp; omega
    obtain rfl := Option.some.inj h
    refine ⟨_, _, _, rfl, ?_⟩
    simp only [List.reverse_cons, List.reverse_nil, List.nil_append, List.cons_append,
      encode_three, hn]
    rw [sextet_congr (m := (((i * 64 + j) * 64 + k) * 64 + l) / 262144) (n := i) (by omega),
      sextet_congr (m := (((i * 64 + j) * 64 + k) * 64 + l) / 4096) (n := j) (by omega),
      sextet_congr (m := (((i * 64 + j) * 64 + k) * 64 + l) / 64) (n := k) (by omega),
      sextet_congr (m := ((i * 64 + j) * 64 + k) * 64 + l) (n := l) (by omega)]
  · cases h

theorem encode_of_decode? : {cs : List Char} → {b : Bytes} → decode? cs = some b → encode b = cs
  | [], b, h => by
    obtain rfl : [] = b := Option.some.inj h
    rfl
  | [_], _, h => nomatch h
  | [_, _], _, h => encode_of_decode?_two h
  | [_, _, _], _, h => encode_of_decode?_three h
  | w :: x :: y :: z :: rest, b, h => by
    rw [decode?_cons_four] at h
    obtain ⟨group, hg, hrest⟩ := Option.bind_eq_some_iff.mp h
    obtain ⟨tail, ht, rfl⟩ := Option.map_eq_some_iff.mp hrest
    obtain ⟨p, q, r, rfl, he⟩ := encode_of_decode?_four hg
    rw [show [p, q, r] ++ tail = p :: q :: r :: tail from rfl, encode_cons_three, he,
      encode_of_decode? ht]
    rfl

theorem decode?_eq_some_iff {cs : List Char} {b : Bytes} :
    decode? cs = some b ↔ cs = encode b :=
  ⟨fun h => (encode_of_decode? h).symm, fun h => h ▸ decode?_encode b⟩

/-- Every character of the text is the symbol of six bits. -/
theorem exists_sextet_of_mem_encode :
    {b : Bytes} → {c : Char} → c ∈ encode b → ∃ n : Fin 64, c = symbol n
  | [], _, h => by cases h
  | [a], c, h => by
    rw [encode_one] at h
    simp only [List.mem_cons, List.not_mem_nil, or_false] at h
    rcases h with rfl | rfl <;> exact ⟨_, rfl⟩
  | [a, b], c, h => by
    rw [encode_two] at h
    simp only [List.mem_cons, List.not_mem_nil, or_false] at h
    rcases h with rfl | rfl | rfl <;> exact ⟨_, rfl⟩
  | a :: b :: c :: rest, d, h => by
    rw [encode_cons_three, List.mem_append] at h
    rcases h with h | h
    · rw [encode_three] at h
      simp only [List.mem_cons, List.not_mem_nil, or_false] at h
      rcases h with rfl | rfl | rfl | rfl <;> exact ⟨_, rfl⟩
    · exact exists_sextet_of_mem_encode h

theorem length_encode : (b : Bytes) → (encode b).length = textLength b.length
  | [] => rfl
  | [a] => by simp [encode_one, textLength]
  | [a, b] => by simp [encode_two, textLength]
  | a :: b :: c :: rest => by
    have hd : (rest.length + 3) / 3 = rest.length / 3 + 1 := by omega
    have hm : (rest.length + 3) % 3 = rest.length % 3 := by omega
    rw [encode_cons_three, List.length_append, length_encode rest, encode_three]
    simp only [textLength, List.length_cons, List.length_nil, hd, hm]
    omega

end Argon2Native.Base64
