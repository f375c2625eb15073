/-! The edit distance of two texts: the least number of insertions, deletions and replacements of
    one character that turn one into the other. -/

namespace RowFilter.Text

/-- The next row of the distance table. `above` holds the row before, without its first entry, and
    `diagonal` that entry; `left` is the entry just written. -/
def distanceRow {α : Type} [BEq α] (a : α) : List α → Nat → Nat → List Nat → List Nat
  | b :: bs, diagonal, left, up :: above =>
    let cost := if a == b then 0 else 1
    let here := min (min (up + 1) (left + 1)) (diagonal + cost)
    here :: distanceRow a bs up here above
  | _, _, _, _ => []

/-- Runs the rows of `as` over the columns of `bs`, and gives the last row. The first entry of row
    `i` is `i`. -/
def distanceRows {α : Type} [BEq α] (bs : List α) : List α → Nat → List Nat → Nat × List Nat
  | [], i, row => (i, row)
  | a :: as, i, row => distanceRows bs as (i + 1) (distanceRow a bs i (i + 1) row)

/-- The edit distance of two texts. -/
def editDistance {α : Type} [BEq α] (as bs : List α) : Nat :=
  let (first, row) := distanceRows bs as 0 (List.range' 1 bs.length)
  row.getLastD first

end RowFilter.Text
