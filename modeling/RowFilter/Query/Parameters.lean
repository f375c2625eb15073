import RowFilter.Filter.Reading
import RowFilter.Query.Form

/-! The query parameters of a request that can carry a filter. -/

namespace RowFilter

/-- The texts of the two parameters, where a request has them. -/
structure Parameters where
  simple : Option String
  complex : Option String
  deriving DecidableEq, Repr, Inhabited

namespace Parameters

/-- The values of a name among some pairs. -/
def valuesOf (name : String) (pairs : List (String × String)) : List String :=
  (pairs.filter fun p => p.1 == name).map Prod.snd

/-- The first pair whose name is one of a filter and stood before already. -/
def repeated? (seen : List String) : List (String × String) → Option String
  | [] => none
  | (name, _) :: rest =>
    if name = Filter.simpleName ∨ name = Filter.complexName then
      if seen.contains name then some name else repeated? (name :: seen) rest
    else repeated? seen rest

/-- The parameters among the pairs of a request. Other pairs are passed over, and neither parameter
    may repeat. -/
def ofPairs (pairs : List (String × String)) : Except FilterError Parameters :=
  match repeated? [] pairs with
  | some name => .error (.malformed (.repeatedParameter name))
  | none =>
    .ok ⟨(valuesOf Filter.simpleName pairs).head?, (valuesOf Filter.complexName pairs).head?⟩

/-- The parameters of a query string; question marks may lead it. -/
def ofQuery (s : String) : Except FilterError Parameters :=
  ofPairs (Form.read (s.toList.dropWhile (· == '?')))

/-- The parameters as pairs. -/
def toPairs (p : Parameters) : List (String × String) :=
  (p.simple.toList.map fun s => (Filter.simpleName, s)) ++
    (p.complex.toList.map fun s => (Filter.complexName, s))

/-- The query string of the parameters. -/
def toQuery (p : Parameters) : String :=
  String.ofList (Form.write p.toPairs)

end Parameters

end RowFilter
