/-! Splitting a text at a separator, everywhere or at its first place. There is always at least one
    part, and the parts with the separator between them make the text again. -/

namespace RowFilter.Text

/-- The parts of a text between separators. -/
def split (separator : Char) : List Char → List (List Char)
  | [] => [[]]
  | c :: rest =>
    if c = separator then [] :: split separator rest
    else match split separator rest with
      | [] => [[c]]
      | part :: parts => (c :: part) :: parts

theorem split_ne_nil (separator : Char) (cs : List Char) : split separator cs ≠ [] := by
  cases cs with
  | nil => simp [split]
  | cons c rest =>
    rw [split]
    split
    · simp
    · split <;> simp

/-- What stands before the first separator and what stands behind it, if there is one. -/
def cut (separator : Char) : List Char → List Char × Option (List Char)
  | [] => ([], none)
  | c :: rest =>
    if c = separator then ([], some rest)
    else match cut separator rest with
      | (front, back) => (c :: front, back)

/-- The parts of a dotted path. -/
def segments (path : String) : List String :=
  (split '.' path.toList).map String.ofList

end RowFilter.Text
