import Argon2Native.Json.Value
/-!
JSON read from text. Each function takes a value off the front and hands back the rest; blanks may
stand around every token.
-/
namespace Argon2Native.Json

def isBlank (c : Char) : Bool := c = ' ' || c = '\t' || c = '\n' || c = '\r'

def skipBlanks (cs : List Char) : List Char := cs.dropWhile isBlank

def hexValue? (c : Char) : Option Nat :=
  if '0' ≤ c ∧ c ≤ '9' then some (c.toNat - '0'.toNat)
  else if 'a' ≤ c ∧ c ≤ 'f' then some (c.toNat - 'a'.toNat + 10)
  else if 'A' ≤ c ∧ c ≤ 'F' then some (c.toNat - 'A'.toNat + 10)
  else none

def hexUnit? (a b c d : Char) : Option UInt16 := do
  let n := (((← hexValue? a) * 16 + (← hexValue? b)) * 16 + (← hexValue? c)) * 16
  return (n + (← hexValue? d)).toUInt16

def escapes : List (Char × UInt16) :=
  [('"', 0x22), ('\\', 0x5C), ('/', 0x2F), ('b', 0x08), ('f', 0x0C), ('n', 0x0A), ('r', 0x0D),
   ('t', 0x09)]

def readUnits : List Char → Option (List UInt16 × List Char)
  | [] => none
  | c :: rest =>
    if c = '"' then some ([], rest)
    else if c = '\\' then
      match rest with
      | [] => none
      | letter :: rest =>
        if letter = 'u' then
          match rest with
          | h₁ :: h₂ :: h₃ :: h₄ :: rest => do
            let unit ← hexUnit? h₁ h₂ h₃ h₄
            let (units, rest) ← readUnits rest
            return (unit :: units, rest)
          | _ => none
        else do
          let unit ← escapes.lookup letter
          let (units, rest) ← readUnits rest
          return (unit :: units, rest)
    else if c.toNat < 0x20 then none
    else do
      let (units, rest) ← readUnits rest
      return (Utf16.ofChar c ++ units, rest)

def readDigits (cs : List Char) : Option (List Char × List Char) :=
  let digits := cs.takeWhile Char.isDigit
  if digits = [] then none else some (digits, cs.dropWhile Char.isDigit)

def readFraction (cs : List Char) : Option (List (Fin 10) × List Char) :=
  if cs.head? = some '.' then do
    let (digits, rest) ← readDigits cs.tail
    return (digits.map fun d => Fin.ofNat 10 (d.toNat - '0'.toNat), rest)
  else some ([], cs)

def readSigned (cs : List Char) : Option (Int × List Char) := do
  let (digits, rest) ← readDigits
    (if cs.head? = some '-' ∨ cs.head? = some '+' then cs.tail else cs)
  let n : Nat := Decimal.value digits
  return (if cs.head? = some '-' then -n else n, rest)

def readExponent (cs : List Char) : Option (Option Int × List Char) :=
  if cs.head? = some 'e' ∨ cs.head? = some 'E' then do
    let (n, rest) ← readSigned cs.tail
    return (some n, rest)
  else some (none, cs)

def readNumber (cs : List Char) : Option (Number × List Char) := do
  let negative := cs.head? = some '-'
  let (digits, cs) ← readDigits (if negative then cs.tail else cs)
  let whole ← Decimal.parse? digits
  let (fraction, cs) ← readFraction cs
  let (exponent, cs) ← readExponent cs
  return ({ negative, whole, fraction, exponent }, cs)

def readWord (letters : List Char) (v : Value) (cs : List Char) : Option (Value × List Char) :=
  if letters.isPrefixOf cs then some (v, cs.drop letters.length) else none

mutual

/-- A value after blanks. `fuel` bounds how deep and how far the reading goes. -/
def readValue (fuel : Nat) (cs : List Char) : Option (Value × List Char) :=
  match fuel, skipBlanks cs with
  | 0, _ => none
  | _ + 1, [] => none
  | fuel + 1, c :: rest =>
    if c = '[' then
      if (skipBlanks rest).head? = some ']' then some (.array [], (skipBlanks rest).tail)
      else (readItems fuel rest).map fun (items, rest) => (.array items, rest)
    else if c = '\x7b' then
      if (skipBlanks rest).head? = some '\x7d' then some (.object [], (skipBlanks rest).tail)
      else (readMembers fuel rest).map fun (members, rest) => (.object members, rest)
    else if c = '"' then (readUnits rest).map fun (units, rest) => (.string units, rest)
    else if c = 'n' then readWord ['u', 'l', 'l'] .null rest
    else if c = 't' then readWord ['r', 'u', 'e'] (.boolean true) rest
    else if c = 'f' then readWord ['a', 'l', 's', 'e'] (.boolean false) rest
    else (readNumber (c :: rest)).map fun (n, rest) => (.number n, rest)

def readItems (fuel : Nat) (cs : List Char) : Option (List Value × List Char) :=
  match fuel with
  | 0 => none
  | fuel + 1 => do
    let (v, cs) ← readValue fuel cs
    match skipBlanks cs with
    | [] => none
    | c :: rest =>
      if c = ',' then
        let (items, rest) ← readItems fuel rest
        return (v :: items, rest)
      else if c = ']' then return ([v], rest)
      else none

def readMembers (fuel : Nat) (cs : List Char) : Option (List (List UInt16 × Value) × List Char) :=
  match fuel with
  | 0 => none
  | fuel + 1 => do
    if (skipBlanks cs).head? ≠ some '"' then none
    let (key, cs) ← readUnits (skipBlanks cs).tail
    if (skipBlanks cs).head? ≠ some ':' then none
    let (v, cs) ← readValue fuel (skipBlanks cs).tail
    match skipBlanks cs with
    | [] => none
    | c :: rest =>
      if c = ',' then
        let (members, rest) ← readMembers fuel rest
        return ((key, v) :: members, rest)
      else if c = '\x7d' then return ([(key, v)], rest)
      else none

end

def parse? (s : String) : Option Value := do
  -- each character is met by two calls at most
  let (v, rest) ← readValue (2 * s.length + 2) s.toList
  if skipBlanks rest = [] then return v else none

end Argon2Native.Json
