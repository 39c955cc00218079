import Argon2Native.Bytes
import Argon2Native.Text.Unprintable
/-!
Octets as a sequence of scalar values and broken parts, for showing names that need not be text.
A broken part is the longest start of some well-formed sequence found where none is complete, and
a single octet where not even that exists.

Messages show a replacement character for each broken part. Diagnostics quote: double quotes and
backslashes are escaped, characters that do not show are written by number, and the octets of broken
parts by their two hexadecimal digits.
-/
namespace Argon2Native.Utf8

inductive Piece where
  | scalar (c : Char)
  | broken (octets : Bytes)

def continues (b : UInt8) : Bool := 0x80 ≤ b && b ≤ 0xBF

/-- The second octet of a three-octet sequence: no overlong form, no surrogate. -/
def secondOfThree (lead b : UInt8) : Bool :=
  if lead = 0xE0 then 0xA0 ≤ b && b ≤ 0xBF
  else if lead = 0xED then 0x80 ≤ b && b ≤ 0x9F
  else continues b

/-- The second octet of a four-octet sequence: no overlong form, nothing past U+10FFFF. -/
def secondOfFour (lead b : UInt8) : Bool :=
  if lead = 0xF0 then 0x90 ≤ b && b ≤ 0xBF
  else if lead = 0xF4 then 0x80 ≤ b && b ≤ 0x8F
  else continues b

def low (b : UInt8) : Nat := b.toNat % 64

def pieceFrom (lead : UInt8) (rest : Bytes) : Piece × Nat :=
  if lead < 0x80 then (.scalar (Char.ofNat lead.toNat), 0)
  else if 0xC2 ≤ lead && lead ≤ 0xDF then
    match rest with
    | x :: _ =>
      if continues x then (.scalar (Char.ofNat ((lead.toNat - 0xC0) * 64 + low x)), 1)
      else (.broken [lead], 0)
    | [] => (.broken [lead], 0)
  else if 0xE0 ≤ lead && lead ≤ 0xEF then
    match rest with
    | x :: more =>
      if !secondOfThree lead x then (.broken [lead], 0)
      else match more with
        | y :: _ =>
          if continues y then
            (.scalar (Char.ofNat (((lead.toNat - 0xE0) * 64 + low x) * 64 + low y)), 2)
          else (.broken [lead, x], 1)
        | [] => (.broken [lead, x], 1)
    | [] => (.broken [lead], 0)
  else if 0xF0 ≤ lead && lead ≤ 0xF4 then
    match rest with
    | x :: more =>
      if !secondOfFour lead x then (.broken [lead], 0)
      else match more with
        | y :: more =>
          if !continues y then (.broken [lead, x], 1)
          else match more with
            | z :: _ =>
              if continues z then
                (.scalar (Char.ofNat
                  ((((lead.toNat - 0xF0) * 64 + low x) * 64 + low y) * 64 + low z)), 3)
              else (.broken [lead, x, y], 2)
            | [] => (.broken [lead, x, y], 2)
        | [] => (.broken [lead, x], 1)
    | [] => (.broken [lead], 0)
  else (.broken [lead], 0)

def pieces : Bytes → List Piece
  | [] => []
  | lead :: rest =>
    let (piece, taken) := pieceFrom lead rest
    piece :: pieces (rest.drop taken)
termination_by b => b.length
decreasing_by simp only [List.length_drop, List.length_cons]; omega

def lossyText (b : Bytes) : String :=
  String.ofList ((pieces b).map fun
    | .scalar c => c
    | .broken _ => '\uFFFD')

end Argon2Native.Utf8

namespace Argon2Native.Quoted

def braced (digits : List Char) : List Char := "\\u\x7b".toList ++ digits ++ ['\x7d']

def escape (c : Char) : List Char :=
  match c.toNat with
  | 0x00 => ['\\', '0']
  | 0x09 => ['\\', 't']
  | 0x0A => ['\\', 'n']
  | 0x0D => ['\\', 'r']
  | 0x22 | 0x5C => ['\\', c]
  | n => if Unprintable.holds c then braced (Nat.toDigits 16 n) else [c]

def hexOctet (b : UInt8) : List Char :=
  ['\\', 'x', (Nat.digitChar (b.toNat / 16)).toUpper, (Nat.digitChar (b.toNat % 16)).toUpper]

def render (octets : Bytes) : String :=
  String.ofList ('"' :: (Utf8.pieces octets).flatMap (fun
    | .scalar c => escape c
    | .broken octets => octets.flatMap hexOctet) ++ ['"'])

end Argon2Native.Quoted
