import RowFilter.Schema.Basic
import RowFilter.Text.Distance

/-! Suggestions for names that are not declared: the declared name nearest in edit distance, letters
    compared in lower case. -/

namespace RowFilter.Suggestion

/-- The greatest distance of a name that is still suggested. -/
def maxDistance : Nat := 3

/-- The edit distance of two names in lower case. -/
def distance (a b : String) : Nat :=
  Text.editDistance (Text.lowercase a.toList) (Text.lowercase b.toList)

/-- The first of the names with the least distance to a name, and that distance. -/
def nearest (name : String) : List String → Option (String × Nat)
  | [] => none
  | candidate :: rest =>
    let d := distance name candidate
    match nearest name rest with
    | some (best, e) => if e < d then some (best, e) else some (candidate, d)
    | none => some (candidate, d)

/-- The name to suggest instead of one that is not declared. The empty name is never suggested. -/
def forName? (name : String) (declared : List String) : Option String :=
  match nearest name (declared.filter fun n => n != "" && n != name) with
  | some (best, d) => if d ≤ maxDistance then some best else none
  | none => none

end RowFilter.Suggestion
