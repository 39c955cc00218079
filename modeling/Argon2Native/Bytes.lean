/-!
Octet strings, their strict reading as UTF-8 text, and the fixed buffers a foreign call writes into.

Main statements: `text?_eq_some_iff` (the octets of a text, and no others, read back as it) and
`length_fill` (a filled buffer keeps its size).
-/
namespace Argon2Native

abbrev Bytes := List UInt8

namespace Bytes

def ofText (s : String) : Bytes := s.toByteArray.data.toList

/-- Overlong forms, surrogates, values past U+10FFFF and truncated sequences are no text. -/
def text? (b : Bytes) : Option String := String.fromUTF8? ⟨b.toArray⟩

theorem text?_ofText (s : String) : text? (ofText s) = some s := by
  simp [text?, ofText, String.fromUTF8?, s.isValidUTF8]
  rfl

theorem ofText_of_text? {b : Bytes} {s : String} (h : text? b = some s) : ofText s = b := by
  simp only [text?, String.fromUTF8?] at h
  split at h
  · rw [← Option.some.inj h]; simp [ofText, String.fromUTF8]
  · cases h

theorem text?_eq_some_iff {b : Bytes} {s : String} : text? b = some s ↔ b = ofText s :=
  ⟨fun h => (ofText_of_text? h).symm, fun h => h ▸ text?_ofText s⟩

def fill (size : Nat) (written : Bytes) : Bytes :=
  written.take size ++ List.replicate (size - written.length) 0

@[simp] theorem length_fill (size : Nat) (written : Bytes) : (fill size written).length = size := by
  simp [fill]; omega

theorem fill_length (written : Bytes) : fill written.length written = written := by simp [fill]

def beforeNul? (b : Bytes) : Option Bytes :=
  if b.contains 0 then some (b.takeWhile (· ≠ 0)) else none

def littleEndian (width n : Nat) : Bytes := (List.range width).map fun i => (n >>> (8 * i)).toUInt8

end Bytes
end Argon2Native
