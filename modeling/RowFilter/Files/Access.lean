/-! What a run can do with the files around it. -/

namespace RowFilter

/-- Access to files by their paths, and to standard input, with effects in `m`. What fails changes
    no file. -/
structure Files (m : Type → Type) where
  /-- Something is at the path. -/
  isPresent : String → m Bool
  /-- The text of a file, if there is one and it can be read. -/
  read : String → m (Option String)
  /-- Puts a text into a file, and tells whether that was possible. -/
  write : String → String → m Bool
  /-- Makes a directory with those above it, and tells whether it is there now. -/
  makeDirectory : String → m Bool
  /-- The whole of standard input, if it can be read. -/
  input : m (Option String)

end RowFilter
