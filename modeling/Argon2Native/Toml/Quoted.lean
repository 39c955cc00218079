import Argon2Native.Text.Reader
/-!
What stands between the parts of a TOML document (blanks, line ends and comments), and strings in
their four forms: basic and literal, on one line and on several.
-/
namespace Argon2Native.Toml

open Reader

def isBlank (c : Char) : Bool := c = ' ' || c = '\t'

def isVisible (c : Char) : Bool := c = '\t' || (0x20 ≤ c.toNat && c.toNat ≠ 0x7F)

def blanks : Reader Unit := discard (run isBlank)

/-- A carriage return counts only before a line feed. -/
def lineFeed : Reader Unit := char '\n' <|> exactly "\r\n"

def comment : Reader Unit := do
  char '#'
  discard (run isVisible)

def lineEnd : Reader Unit := do
  blanks
  discard (optional comment)
  lineFeed <|> finished

def blankLines : Reader Unit :=
  discard (many (discard (run1 isBlank) <|> lineFeed <|> (comment *> lineFeed)))

def isHex (c : Char) : Bool :=
  c.isDigit || ('a' ≤ c && c ≤ 'f') || ('A' ≤ c && c ≤ 'F')

def hexValue (c : Char) : Nat :=
  if c.isDigit then c.toNat - '0'.toNat
  else if 'a' ≤ c then c.toNat - 'a'.toNat + 10
  else c.toNat - 'A'.toNat + 10

def hexNumber (n : Nat) : Reader Nat := do
  let digits ← (List.range n).mapM fun _ => one isHex
  return digits.foldl (fun value c => 16 * value + hexValue c) 0

def scalar (digits : Nat) : Reader Char := do
  let n ← hexNumber digits
  if n.isValidChar then return Char.ofNat n else refuse

def escaped : Reader Char := do
  match ← one fun _ => true with
  | 'b' => return '\x08'
  | 'f' => return '\x0C'
  | 'n' => return '\n'
  | 'r' => return '\r'
  | 't' => return '\t'
  | 'u' => scalar 4
  | 'U' => scalar 8
  | '"' => return '"'
  | '\\' => return '\\'
  | _ => refuse

def escape : Reader (List Char) := do
  char '\\'
  return [← escaped]

def doubleQuote : Char := '"'
def singleQuote : Char := '\x27'

def isBasic (c : Char) : Bool := isVisible c && c ≠ doubleQuote && c ≠ '\\'
def isLiteral (c : Char) : Bool := isVisible c && c ≠ singleQuote

def basic : Reader (List Char) := do
  char doubleQuote
  let parts ← many (run1 isBasic <|> escape)
  char doubleQuote
  return parts.flatten

def literal : Reader (List Char) := do
  char singleQuote
  let cs ← run isLiteral
  char singleQuote
  return cs

/-- A backslash at the end of a line takes the blank lines and the blanks after it away. -/
def continuation : Reader Unit := do
  char '\\'
  blanks
  lineFeed
  discard (many (discard (run1 isBlank) <|> lineFeed))

def threeOf (quote : Char) : Reader Unit := do
  char quote
  char quote
  char quote

/-- The inside of a string on several lines, up to and with the closing quotes. One or two quotes
are content wherever they stand, also right before the closing ones. -/
def untilThree (quote : Char) (content : Reader (List Char)) : Reader (List Char) := do
  let quotes : Reader (List Char) := do
    let marks ← run1 (· = quote)
    if marks.length < 3 then return marks else refuse
  let parts ← many (content <|> quotes)
  let marks ← run1 (· = quote)
  if 3 ≤ marks.length ∧ marks.length ≤ 5 then
    return parts.flatten ++ marks.drop 3
  else refuse

def basicLines : Reader (List Char) := do
  threeOf doubleQuote
  discard (optional lineFeed)
  untilThree doubleQuote
    (run1 isBasic <|> (lineFeed *> pure ['\n']) <|> (continuation *> pure []) <|> escape)

def literalLines : Reader (List Char) := do
  threeOf singleQuote
  discard (optional lineFeed)
  untilThree singleQuote (run1 isLiteral <|> (lineFeed *> pure ['\n']))

def line : Reader String := String.ofList <$> (basic <|> literal)

def string : Reader String :=
  -- three opening quotes would read as an empty text on one line
  String.ofList <$> (basicLines <|> literalLines) <|> line

end Argon2Native.Toml
