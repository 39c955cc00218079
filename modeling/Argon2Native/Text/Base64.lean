import Argon2Native.Bytes
/-!
Unpadded base64 over the standard alphabet. Only canonical text reads back: no `=`, no character
outside the alphabet, and the bits past the last octet zero.

Main statements: `encode_cons_three` and `decode?_cons_four`, both ways go group by group.
-/
namespace Argon2Native.Base64

def symbol (n : Fin 64) : Char :=
  if n < 26 then Char.ofNat ('A'.toNat + n)
  else if n < 52 then Char.ofNat ('a'.toNat + (n - 26))
  else if n < 62 then Char.ofNat ('0'.toNat + (n - 52))
  else if n = 62 then '+'
  else '/'

def value? (c : Char) : Option Nat :=
  if 'A' ≤ c ∧ c ≤ 'Z' then some (c.toNat - 'A'.toNat)
  else if 'a' ≤ c ∧ c ≤ 'z' then some (c.toNat - 'a'.toNat + 26)
  else if '0' ≤ c ∧ c ≤ '9' then some (c.toNat - '0'.toNat + 52)
  else if c = '+' then some 62
  else if c = '/' then some 63
  else none

def sextet (n : Nat) : Char := symbol (Fin.ofNat 64 n)

/-- `out` holds what is written so far, the last character first. -/
def encodeOnto (out : List Char) : Bytes → List Char
  | a :: b :: c :: rest =>
    let n := (a.toNat * 256 + b.toNat) * 256 + c.toNat
    encodeOnto (sextet n :: sextet (n / 64) :: sextet (n / 4096) :: sextet (n / 262144) :: out) rest
  | [a, b] =>
    let n := (a.toNat * 256 + b.toNat) * 4
    (sextet n :: sextet (n / 64) :: sextet (n / 4096) :: out).reverse
  | [a] =>
    let n := a.toNat * 16
    (sextet n :: sextet (n / 64) :: out).reverse
  | [] => out.reverse

def encode (b : Bytes) : List Char := encodeOnto [] b

theorem encodeOnto_append (front back : List Char) (b : Bytes) :
    encodeOnto (front ++ back) b = back.reverse ++ encodeOnto front b := by
  fun_induction encodeOnto front b with
  | case1 front a b c rest n ih => exact ih
  | case2 => simp +zetaDelta [encodeOnto]
  | case3 => simp +zetaDelta [encodeOnto]
  | case4 => simp [encodeOnto]

theorem encode_cons_three (a b c : UInt8) (rest : Bytes) :
    encode (a :: b :: c :: rest) = encode [a, b, c] ++ encode rest :=
  encodeOnto_append [] _ rest

def decodeOnto (out : Bytes) : List Char → Option Bytes
  | w :: x :: y :: z :: rest =>
    match value? w, value? x, value? y, value? z with
    | some i, some j, some k, some l =>
      let n := ((i * 64 + j) * 64 + k) * 64 + l
      decodeOnto (n.toUInt8 :: (n / 256).toUInt8 :: (n / 65536).toUInt8 :: out) rest
    | _, _, _, _ => none
  | [w, x, y] =>
    match value? w, value? x, value? y with
    | some i, some j, some k =>
      let n := (i * 64 + j) * 64 + k
      if n % 4 = 0 then some ((n / 4).toUInt8 :: (n / 1024).toUInt8 :: out).reverse else none
    | _, _, _ => none
  | [w, x] =>
    match value? w, value? x with
    | some i, some j =>
      let n := i * 64 + j
      if n % 16 = 0 then some ((n / 16).toUInt8 :: out).reverse else none
    | _, _ => none
  | [_] => none
  | [] => some out.reverse

def decode? (cs : List Char) : Option Bytes := decodeOnto [] cs

theorem decodeOnto_append (front back : Bytes) (cs : List Char) :
    decodeOnto (front ++ back) cs = (decodeOnto front cs).map (back.reverse ++ ·) := by
  fun_induction decodeOnto front cs <;> simp_all +zetaDelta [decodeOnto]

theorem decode?_cons_four (w x y z : Char) (rest : List Char) :
    decode? (w :: x :: y :: z :: rest) =
      (decode? [w, x, y, z]).bind fun group => (decode? rest).map (group ++ ·) := by
  simp only [decode?, decodeOnto]
  split
  · exact decodeOnto_append [] _ rest
  · rfl

def textLength (n : Nat) : Nat :=
  n / 3 * 4 + match n % 3 with
    | 0 => 0
    | 1 => 2
    | _ => 3

def textLengthWord (n : UInt64) : UInt64 :=
  n / 3 * 4 + if n % 3 = 0 then 0 else if n % 3 = 1 then 2 else 3

end Argon2Native.Base64
