import RowFilter.Number.Decimal

/-! How the program lays out text for terminals: colours, columns and counts. -/

namespace RowFilter.Style

/-- A text between two codes, if colours are on. -/
def coded (on off : String) (colors : Bool) (s : String) : String :=
  if colors then "\x1b[" ++ on ++ "m" ++ s ++ "\x1b[" ++ off ++ "m" else s

/-- Dimmed text. -/
def dimmed : Bool → String → String := coded "2" "0"

/-- Cyan text. -/
def cyan : Bool → String → String := coded "36" "39"

/-- Bold green text, for headings. -/
def heading (colors : Bool) (s : String) : String :=
  coded "1" "0" colors (coded "32" "39" colors s)

/-- A text filled up with blanks behind it to a width. -/
def column (width : Nat) (s : String) : String :=
  s ++ String.ofList (List.replicate (width - s.length) ' ')

/-- A line. -/
def line (s : String) : String :=
  s ++ "\n"

/-- A count with its noun, in the plural unless it is one. -/
def counted (n : Nat) (noun : String) : String :=
  toString n ++ " " ++ noun ++ (if n = 1 then "" else "s")

end RowFilter.Style
