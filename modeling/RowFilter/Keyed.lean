/-! Lists of named entries. A list in ascending order of its names, each once, is how a finite map
    from names is kept; names are ordered by their code points. -/

namespace RowFilter

/-- Entries, each with its name. -/
abbrev Keyed (α : Type) := List (String × α)

namespace Keyed

variable {α : Type}

/-- The first entry of a name. -/
def find? (name : String) : Keyed α → Option α
  | [] => none
  | (k, a) :: rest => if k = name then some a else find? name rest

/-- The names, in order. -/
def names (l : Keyed α) : List String :=
  l.map Prod.fst

/-- Some entry has the name. -/
def has (l : Keyed α) (name : String) : Bool :=
  l.any fun e => e.1 == name

/-- Puts an entry at its place in an ascending list, instead of one of the same name. -/
def insert (name : String) (a : α) : Keyed α → Keyed α
  | [] => [(name, a)]
  | (k, b) :: rest =>
    if name < k then (name, a) :: (k, b) :: rest
    else if k = name then (name, a) :: rest
    else (k, b) :: insert name a rest

/-- The entries in ascending order of their names; of several with one name the last one stays. -/
def sorted (l : Keyed α) : Keyed α :=
  l.foldl (fun m e => insert e.1 e.2 m) []

/-- The names ascend, hence each occurs once. -/
def Ascending (l : Keyed α) : Prop :=
  l.names.Pairwise (· < ·)

instance (l : Keyed α) : Decidable (Ascending l) :=
  inferInstanceAs (Decidable (List.Pairwise _ _))

end Keyed

end RowFilter
