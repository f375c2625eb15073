import RowFilter.Files.Access
import RowFilter.Text.Split

/-! Trees of files and directories as values. A path is walked name by name from the root, and every
    name but the last one has to lead to a directory; a name of two dots leads back up. -/

namespace RowFilter

/-- A file with its text, or a directory. -/
inductive FileEntry where
  | file (content : String)
  | directory
  deriving DecidableEq, Repr, Inhabited

/-- Files and directories by the names that lead to them. The root is a directory and not listed. -/
structure FileTree where
  entries : List (List String × FileEntry)
  deriving DecidableEq, Repr, Inhabited

namespace FileTree

/-- The tree that has nothing but its root. -/
def empty : FileTree := ⟨[]⟩

/-- What is at a place. -/
def entry? (t : FileTree) (place : List String) : Option FileEntry :=
  if place.isEmpty then some .directory else t.entries.lookup place

/-- The place is a directory. -/
def isDirectory (t : FileTree) (place : List String) : Bool :=
  t.entry? place == some .directory

/-- Puts an entry at a place. -/
def put (t : FileTree) (place : List String) (e : FileEntry) : FileTree :=
  ⟨(place, e) :: t.entries.filter fun old => old.1 != place⟩

/-- The names of a path. -/
def names (path : String) : List String :=
  (Text.split '/' path.toList).map String.ofList

/-- Where a name leads from a place. -/
def follow (place : List String) (name : String) : List String :=
  if name == "" || name == "." then place
  else if name == ".." then place.dropLast
  else place ++ [name]

/-- Where names lead from a place, as long as there are directories to go through. -/
def walk (t : FileTree) (place : List String) : List String → Option (List String)
  | [] => some place
  | name :: rest => if t.isDirectory place then t.walk (follow place name) rest else none

/-- The place that a path leads to. There need not be anything yet. -/
def place? (t : FileTree) (path : String) : Option (List String) :=
  if path.isEmpty then none else t.walk [] (names path)

/-- What is at a path. -/
def at? (t : FileTree) (path : String) : Option FileEntry :=
  (t.place? path).bind t.entry?

/-- The text of the file at a path. -/
def read (t : FileTree) (path : String) : Option String :=
  match t.at? path with
  | some (.file content) => some content
  | _ => none

/-- Puts a text into the file at a path, and tells whether that was possible. -/
def write (t : FileTree) (path content : String) : Bool × FileTree :=
  match t.place? path with
  | none => (false, t)
  | some place =>
    if t.isDirectory place then (false, t) else (true, t.put place (.file content))

/-- Goes from a place along names and makes the directories that are missing. -/
def make (t : FileTree) (place : List String) : List String → Bool × FileTree
  | [] => (true, t)
  | name :: rest =>
    let next := follow place name
    match t.entry? next with
    | some .directory => t.make next rest
    | some (.file _) => (false, t)
    | none => (t.put next .directory).make next rest

/-- Makes the directory at a path, and tells whether it is there now. -/
def makeDirectory (t : FileTree) (path : String) : Bool × FileTree :=
  t.make [] (names path)

/-- Access to the files of a tree, with this text as standard input. -/
def access (input : Option String) : Files (StateM FileTree) where
  isPresent path := fun t => ((t.at? path).isSome, t)
  read path := fun t => (t.read path, t)
  write path content := fun t => t.write path content
  makeDirectory path := fun t => t.makeDirectory path
  input := pure input

/-- A tree of some files, with the directories above them. -/
def ofFiles (files : List (String × String)) : FileTree :=
  files.foldl (fun t f =>
    let place := names f.1
    ((t.make [] place.dropLast).2).put place (.file f.2)) empty

end FileTree

end RowFilter
