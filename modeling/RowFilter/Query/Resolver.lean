import RowFilter.Query.Parameters

/-! Resolution of the filter that a request carries. Adapters are asked in order, and the first one
    that supports the parameters gives the filter. An adapter has no errors: what it cannot read is
    no filter. -/

namespace RowFilter

/-- A way to carry a filter in the parameters of a request. -/
structure Adapter where
  name : String
  supports : Parameters → Bool
  adapt : Parameters → Filter

namespace Adapter

/-- The filter that was read, or none at all. -/
def orEmpty : Except FilterError Filter → Filter
  | .ok f => f
  | .error _ => .empty

/-- Reads the parameters as JSON. A list of conditions goes before a group. -/
def json : Adapter where
  name := "json"
  supports p := p.simple.isSome || p.complex.isSome
  adapt p := match p.simple, p.complex with
    | some s, _ => orEmpty (Filter.readSimple s)
    | none, some s => orEmpty (Filter.readComplex s)
    | none, none => .empty

end Adapter

/-- Adapters in the order they are asked. -/
structure Resolver where
  adapters : List Adapter

namespace Resolver

/-- The resolver that reads JSON. -/
def standard : Resolver := ⟨[.json]⟩

/-- The filter that the parameters carry. -/
def resolve (r : Resolver) (p : Parameters) : Filter :=
  match r.adapters.find? (·.supports p) with
  | some a => a.adapt p
  | none => .empty

/-- The filter that a query string carries, none if it cannot be read. -/
def resolveQuery (r : Resolver) (s : String) : Filter :=
  match Parameters.ofQuery s with
  | .ok p => r.resolve p
  | .error _ => .empty

/-- The resolver in words: the names of its adapters. -/
def describe (r : Resolver) : String :=
  "FilterResolver \x7b adapters: [" ++
    String.intercalate ", " (r.adapters.map fun a => Text.quoted a.name) ++ "] \x7d"

end Resolver

end RowFilter
