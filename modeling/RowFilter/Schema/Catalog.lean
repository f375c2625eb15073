import RowFilter.Schema.Resolution

/-! A schema that remembers the paths it has resolved, until an entity is added. -/

namespace RowFilter

/-- The fields of an entity and the name that goes with them. -/
structure EntitySchema where
  name : String
  fields : Fields
  deriving DecidableEq, Repr, Inhabited

/-- A type of entities. It has a name of its own, whatever name its schema has. -/
structure Entity where
  name : String
  schema : EntitySchema
  deriving DecidableEq, Repr, Inhabited

/-- A schema and the kinds of the paths resolved since it last changed. -/
structure Catalog where
  schema : Schema
  memo : List ((String × String) × Kind)
  deriving DecidableEq, Repr, Inhabited

namespace Catalog

/-- The catalog of a schema, nothing remembered. -/
def ofSchema (s : Schema) : Catalog := ⟨s, []⟩

/-- Adds an entity, instead of one of the same name, and forgets what was resolved. -/
def insert (c : Catalog) (name : String) (fields : Fields) : Catalog :=
  ofSchema (c.schema.insert name fields)

/-- Adds an entity under the name in its schema. -/
def add (c : Catalog) (e : EntitySchema) : Catalog :=
  c.insert e.name e.fields

/-- Adds the entities of a type under the name of the type. -/
def register (c : Catalog) (e : Entity) : Catalog :=
  c.add { e.schema with name := e.name }

/-- Resolves a path, from memory if it is there; a path that resolves is remembered. -/
def resolve (entity path : String) : StateM Catalog (Except ResolutionError Kind) := fun c =>
  match c.memo.lookup (entity, path) with
  | some k => (.ok k, c)
  | none => match c.schema.resolve entity path with
    | .ok k => (.ok k, { c with memo := ((entity, path), k) :: c.memo })
    | .error e => (.error e, c)

end Catalog

end RowFilter
