import Argon2Native.Text.Decimal
import Argon2Native.Toml.Quoted
import Argon2Native.Toml.Value
/-!
TOML numbers and dates. Integers have 64 bits with a sign; a float is read for its form alone, and
so is a date, whose parts must be in range.
-/
namespace Argon2Native.Toml

open Reader

def mostInteger : Int := Int64.maxValue.toInt
def leastInteger : Int := Int64.minValue.toInt

def integerInRange (n : Int) : Reader Value :=
  if leastInteger ≤ n ∧ n ≤ mostInteger then pure (.integer n) else refuse

def digits (isDigit : Char → Bool) : Reader (List Char) := do
  let first ← one isDigit
  let rest ← many (one isDigit <|> (char '_' *> one isDigit))
  return first :: rest

def based (mark : String) (base : Nat) (isDigit : Char → Bool) : Reader Value := do
  exactly mark
  let cs ← digits isDigit
  integerInRange (cs.foldl (fun n c => n * base + hexValue c) 0 : Nat)

def sign : Reader (Option Char) := optional (one fun c => c = '+' || c = '-')

def whole : Reader (List Char) := do
  let cs ← digits Char.isDigit
  if Decimal.IsCanonical cs then return cs else refuse

def decimal : Reader Value := do
  let sign ← sign
  let n : Nat := Decimal.value (← whole)
  integerInRange (if sign = some '-' then -n else n)

def integer : Reader Value :=
  based "0x" 16 isHex <|> based "0o" 8 (fun c => '0' ≤ c && c ≤ '7') <|>
  based "0b" 2 (fun c => c = '0' || c = '1') <|> decimal

def fraction : Reader (List Char) := char '.' *> digits Char.isDigit

def exponent : Reader Int := do
  discard (one fun c => c = 'e' || c = 'E')
  let sign ← sign
  let n : Nat := Decimal.value (← digits Char.isDigit)
  return if sign = some '-' then -n else n

/-- Whether digits times `10 ^ e` round past the largest finite double. -/
def overflows (digits : List Char) (e : Int) : Bool :=
  let digits := digits.dropWhile (· = '0')
  if digits = [] then false
  else if 400 < digits.length + e then true
  else if digits.length + e < 300 then false
  else
    let n := Decimal.value digits
    Nat.pow 2 1024 - Nat.pow 2 970 ≤
      if 0 ≤ e then n * Nat.pow 10 e.toNat else n / Nat.pow 10 (-e).toNat

def float : Reader Value := do
  let sign ← sign
  let special := exactly "inf" *> pure (.float "inf".toList) <|>
    exactly "nan" *> pure (.float "nan".toList)
  let number := do
    let whole ← whole
    let fraction ← optional fraction
    let exponent ← optional exponent
    if fraction.isNone && exponent.isNone then refuse
    let cs := whole ++ fraction.getD []
    if sign ≠ some '-' && overflows cs (exponent.getD 0 - (fraction.getD []).length)
    then refuse
    return .float cs
  special <|> number

def padded (n least most : Nat) : Reader Nat := do
  let cs ← (List.range n).mapM fun _ => one Char.isDigit
  let value := Decimal.value cs
  if least ≤ value ∧ value ≤ most then return value else refuse

def monthLength (year month : Nat) : Nat :=
  if month = 2 then
    if year % 4 = 0 ∧ (year % 100 ≠ 0 ∨ year % 400 = 0) then 29 else 28
  else if month = 4 ∨ month = 6 ∨ month = 9 ∨ month = 11 then 30
  else 31

def day : Reader Unit := do
  let year ← padded 4 0 9999
  char '-'
  let month ← padded 2 1 12
  char '-'
  discard (padded 2 1 (monthLength year month))

def time : Reader Unit := do
  discard (padded 2 0 23)
  char ':'
  discard (padded 2 0 59)
  char ':'
  discard (padded 2 0 60)
  discard (optional (char '.' *> run1 Char.isDigit))

def offset : Reader Unit :=
  discard (one fun c => c = 'Z' || c = 'z') <|> do
    discard (one fun c => c = '+' || c = '-')
    discard (padded 2 0 23)
    char ':'
    discard (padded 2 0 59)

def date : Reader Value := fun s =>
  let moment := do
    day
    discard (optional (one (fun c => c = 'T' || c = 't' || c = ' ') *> time *> optional offset))
  ((moment <|> time) s).map fun (_, rest) => (.date (s.take (s.length - rest.length)), rest)

def number : Reader Value := date <|> float <|> integer

end Argon2Native.Toml
