import Argon2Native.Toml.Number
import Argon2Native.Toml.Table
/-!
TOML documents read from text. `parse?` gives the table that a text describes, and nothing if the
text is no TOML or defines a key twice.
-/
namespace Argon2Native.Toml

open Reader

def depthLimit : Nat := 80

def isBareKey (c : Char) : Bool := c.isAlphanum || c = '_' || c = '-'

def simpleKey : Reader String := line <|> String.ofList <$> run1 isBareKey

def key : Reader (List String) := do
  let keys ← separated (blanks *> simpleKey <* blanks) (char '.')
  if keys.length < depthLimit then return keys else refuse

def boolean : Reader Value :=
  exactly "true" *> pure (.boolean true) <|> exactly "false" *> pure (.boolean false)

def atom : Reader Value := Value.string <$> string <|> boolean <|> number

def array (value : Reader Value) : Reader Value := do
  char '['
  let items ← optional (separated (blankLines *> value <* blankLines) (char ','))
  if items.isSome then discard (optional (char ','))
  blankLines
  char ']'
  return .array (items.getD [])

def pair (value : Reader Value) : Reader (List String × Value) := do
  let keys ← key
  char '='
  blanks
  return (keys, ← value)

def inlineTable (value : Reader Value) : Reader Value := do
  char '\x7b'
  let pairs ← optional (separated (pair value <* blanks) (char ','))
  blanks
  char '\x7d'
  match (pairs.getD []).foldlM (fun items (keys, v) => Items.assign v keys items) [] with
  | some items => return .table (finishItems items)
  | none => refuse

def value : Nat → Reader Value
  | 0, s => atom s
  | depth + 1, s => (array (value depth) <|> inlineTable (value depth) <|> atom) s

inductive Line where
  | blank
  | header (path : List String)
  | rowHeader (path : List String)
  | assignment (keys : List String) (v : Value)

def bracketed (opening closing : String) : Reader (List String) :=
  exactly opening *> key <* exactly closing

def documentLine : Reader Line := do
  blanks
  let line ← .rowHeader <$> bracketed "[[" "]]" <|> .header <$> bracketed "[" "]" <|>
    (fun (keys, v) => .assignment keys v) <$> pair (value (depthLimit - 1)) <|> pure .blank
  lineEnd
  return line

structure Draft where
  items : Items := []
  path : List String := []

def Draft.add (d : Draft) : Line → Option Draft
  | .blank => some d
  | .header path => do
    let key ← path.getLast?
    return ⟨← d.items.descend (Items.openTable key) path.dropLast, path⟩
  | .rowHeader path => do
    let key ← path.getLast?
    return ⟨← d.items.descend (Items.openRow key) path.dropLast, path⟩
  | .assignment keys v => do
    return ⟨← d.items.descend (Items.assign v keys) d.path, d.path⟩

def lines : Reader (List Line) := do
  -- a line takes at least its line end, but the last one may be empty
  let lines ← many (documentLine <* ahead (one fun _ => true))
  return lines ++ [← documentLine]

def parse? (s : String) : Option Value := do
  let cs := s.toList
  let text := if cs.head? = some '\uFEFF' then cs.tail else cs
  let (lines, _) ← (lines <* finished) text
  let draft ← lines.foldlM Draft.add {}
  return .table (finishItems draft.items)

end Argon2Native.Toml
