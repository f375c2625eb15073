import RowFilter.Files.Tree

/-! Trees in which not everything is permitted. What is refused fails as if it could not be done. -/

namespace RowFilter

/-- What a run is permitted to do with the paths of a tree. -/
structure Permissions where
  /-- The directories on the way may be gone through. -/
  search : String → Bool
  /-- The file may be read, and it holds a text. -/
  read : String → Bool
  write : String → Bool
  /-- The number of names after which no further directory may be made, if there is one. -/
  limit? : String → Option Nat

namespace Permissions

/-- Everything is permitted. -/
def all : Permissions :=
  ⟨fun _ => true, fun _ => true, fun _ => true, fun _ => none⟩

end Permissions

namespace FileTree

/-- Makes the directory at a path, as far as that is permitted. -/
def makePermitted (t : FileTree) (limit? : Option Nat) (path : String) : Bool × FileTree :=
  match limit? with
  | none => t.makeDirectory path
  | some limit => (false, (t.make [] ((names path).take limit)).2)

/-- Access to the files of a tree as far as it is permitted, with this text as standard input. -/
def permitted (p : Permissions) (input : Option String) : Files (StateM FileTree) where
  isPresent path := fun t => (p.search path && (t.at? path).isSome, t)
  read path := fun t => (if p.search path && p.read path then t.read path else none, t)
  write path content := fun t =>
    if p.search path && p.write path then t.write path content else (false, t)
  makeDirectory path := fun t => t.makePermitted (p.limit? path) path
  input := pure input

end FileTree

end RowFilter
