import Argon2Native.Text.Decimal
import Argon2Native.Text.Utf16
/-!
JSON values and their compact text. A string is a sequence of UTF-16 units, since an escape may name
a surrogate alone; a number keeps the parts of its text.
-/
namespace Argon2Native.Json

structure Number where
  negative : Bool := false
  whole : Nat
  fraction : List (Fin 10) := []
  exponent : Option Int := none
  deriving DecidableEq

def Number.natural? (n : Number) : Option Nat :=
  if n.negative = false ∧ n.fraction = [] ∧ n.exponent = none then some n.whole else none

inductive Value where
  | null
  | boolean (b : Bool)
  | number (n : Number)
  | string (units : List UInt16)
  | array (items : List Value)
  | object (members : List (List UInt16 × Value))

abbrev Member := List UInt16 × Value

def hexDigit (n : Nat) : Char := Nat.digitChar (n % 16)

def printUnit (u : UInt16) : List Char :=
  let n := u.toNat
  if 0x20 ≤ n ∧ n < 0x7F ∧ n ≠ 0x22 ∧ n ≠ 0x5C then [Char.ofNat n]
  else ['\\', 'u', hexDigit (n / 4096), hexDigit (n / 256), hexDigit (n / 16), hexDigit n]

def printString (units : List UInt16) : List Char := '"' :: units.flatMap printUnit ++ ['"']

def printFraction (digits : List (Fin 10)) : List Char :=
  if digits = [] then [] else '.' :: digits.map fun (d : Fin 10) => Nat.digitChar d

def printExponent : Option Int → List Char
  | none => []
  | some e => 'e' :: (if e < 0 then ['-'] else []) ++ Decimal.render e.natAbs

def printNumber (n : Number) : List Char :=
  (if n.negative then ['-'] else []) ++ Decimal.render n.whole ++ printFraction n.fraction ++
  printExponent n.exponent

mutual

def print : Value → List Char
  | .null => "null".toList
  | .boolean b => (if b then "true" else "false").toList
  | .number n => printNumber n
  | .string units => printString units
  | .array items => '[' :: printItems items ++ [']']
  | .object members => '\x7b' :: printMembers members ++ ['\x7d']

def printItems : List Value → List Char
  | [] => []
  | [v] => print v
  | v :: rest => print v ++ ',' :: printItems rest

def printMembers : List (List UInt16 × Value) → List Char
  | [] => []
  | [(key, v)] => printString key ++ ':' :: print v
  | (key, v) :: rest => printString key ++ ':' :: (print v ++ ',' :: printMembers rest)

end

end Argon2Native.Json
