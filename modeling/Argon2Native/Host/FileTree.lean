import Argon2Native.Native.Call
/-!
A tree of files, without links. A location is the list of names from the root; a path leads to a
place by its pieces, one directory at a time.
-/
namespace Argon2Native

/-- The names from the root to a place. -/
abbrev Location := List Bytes

inductive Entry where
  | directory (entries : List (Bytes × Entry))
  | file (content : Bytes)
  /-- A library that can be loaded, with its entry point if it exports one. -/
  | library (entryPoint : Option Native.EntryPoint)

abbrev Entries := List (Bytes × Entry)

def Entry.isLibrary : Entry → Bool
  | .library _ => true
  | _ => false

structure FileTree where
  root : Entries

inductive Astray where
  | missing
  | throughFile
  | nameTooLong
  | zeroInName
  deriving DecidableEq

namespace Entries

def assign (name : Bytes) (entry : Entry) (entries : Entries) : Entries :=
  (name, entry) :: entries.filter (·.1 ≠ name)

def within (f : Entries → Entries) : Location → Entries → Entries
  | [], entries => f entries
  | name :: location, entries =>
    match entries.lookup name with
    | some (.directory inner) => assign name (.directory (within f location inner)) entries
    | _ => entries

end Entries

/-- A place in a tree: what stands there, if anything does, and on the way up from it each name
with the entries among which it was looked for. -/
structure Cursor where
  entry : Option Entry
  above : List (Bytes × Entries)

namespace Cursor

def location (c : Cursor) : Location := (c.above.map (·.1)).reverse

def entries (c : Cursor) : Entries :=
  match c.entry with
  | some (.directory entries) => entries
  | _ => []

def down (c : Cursor) (name : Bytes) : Cursor :=
  ⟨c.entries.lookup name, (name, c.entries) :: c.above⟩

def up (c : Cursor) : Cursor :=
  match c.above with
  | [] => c
  | (_, entries) :: above => ⟨some (.directory entries), above⟩

def mostInName : Nat := 255

/-- One piece further, from a directory. An empty piece and `.` stay, `..` goes up, and any other
piece goes down. -/
def step (c : Cursor) (piece : Bytes) : Except Astray Cursor :=
  match c.entry with
  | none => .error .missing
  | some (.directory _) =>
    if piece = [] ∨ piece = [Path.dot] then .ok c
    else if piece = [Path.dot, Path.dot] then .ok c.up
    else if mostInName < piece.length then .error .nameTooLong
    else .ok (c.down piece)
  | some _ => .error .throughFile

end Cursor

namespace FileTree

def mostInPath : Nat := 4095

/-- The name of a directory that was removed while a process works in it. No path spells it, and
nothing is made in it. -/
def orphan : Bytes := [Path.slash]

def empty : FileTree := ⟨[]⟩

def top (t : FileTree) : Cursor := ⟨some (.directory t.root), []⟩

def cursor (t : FileTree) (location : Location) : Cursor := location.foldl Cursor.down t.top

def entry? (t : FileTree) (location : Location) : Option Entry := (t.cursor location).entry

def pieces (path : Path) : List Bytes := path.octets.splitOn Path.slash

def origin (t : FileTree) (start : Location) (path : Path) : Cursor :=
  if path.isAbsolute then t.top else t.cursor start

/-- The place that a path leads to, from `start` unless it is absolute. Something need not stand
there, but directories must all the way to it. The empty path leads nowhere. -/
def route (t : FileTree) (start : Location) (path : Path) : Except Astray Cursor := do
  if path.octets = [] then .error .missing
  if path.octets.contains 0 then .error .zeroInName
  if mostInPath < path.octets.length then .error .nameTooLong
  (pieces path).foldlM Cursor.step (t.origin start path)

def find (t : FileTree) (start : Location) (path : Path) : Except Astray (Location × Entry) := do
  let c ← t.route start path
  match c.entry with
  | some entry => return (c.location, entry)
  | none => .error .missing

def around (t : FileTree) (location : Location) (f : Bytes → Entries → Entries) : FileTree :=
  match location.getLast? with
  | some name => ⟨Entries.within (f name) location.dropLast t.root⟩
  | none => t

def put (t : FileTree) (location : Location) (entry : Entry) : FileTree :=
  t.around location fun name entries => entries.assign name entry

def make (t : FileTree) (location : Location) (entry : Entry) : Except Astray FileTree :=
  if location.dropLast.getLast? = some orphan then .error .missing else .ok (t.put location entry)

def stepMaking (t : FileTree) (c : Cursor) (piece : Bytes) : Except Astray (FileTree × Cursor) := do
  let next ← c.step piece
  match next.entry with
  | some _ => return (t, next)
  | none =>
    let t ← t.make next.location (.directory [])
    return (t, t.cursor next.location)

def makeDirectory (t : FileTree) (start : Location) (path : Path) : FileTree :=
  let reached := (pieces path).foldlM (fun (t, c) piece => stepMaking t c piece)
    (t, t.origin start path)
  match reached with
  | .ok (made, _) => made
  | .error _ => t

/-- An entry where a path leads to, with the directories on the way. It takes the place of a file,
but not of a directory. -/
def write (t : FileTree) (start : Location) (path : Path) (entry : Entry) : FileTree :=
  let t := (path.parent?.map (t.makeDirectory start)).getD t
  let written := do
    let c ← t.route start path
    match c.entry with
    | some (.directory _) => return t
    | some _ => return t.put c.location entry
    | none => t.make c.location entry
  written.toOption.getD t

def clear (t : FileTree) (location : Location) : FileTree :=
  ⟨Entries.within (fun _ => []) location t.root⟩

def remove (t : FileTree) (location : Location) : FileTree :=
  t.around location fun name entries => entries.filter (·.1 ≠ name)

end FileTree
end Argon2Native
