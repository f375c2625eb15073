import RowFilter.Keyed
import RowFilter.Literal.Kind

/-! Schemas: the entities that can be filtered, each with its fields. A field holds a value of a
    kind or leads to another entity. -/

namespace RowFilter

/-- What a field holds: a value of a kind, or a related entity by name. -/
inductive FieldType where
  | value (k : Kind)
  | relation (entity : String)
  deriving DecidableEq, Repr, Inhabited

/-- The fields of an entity, in ascending order of their names. -/
abbrev Fields := Keyed FieldType

/-- The entities by name, in ascending order. -/
structure Schema where
  entities : Keyed Fields
  deriving DecidableEq, Repr, Inhabited

namespace Schema

/-- The schema without entities. -/
def empty : Schema := ⟨[]⟩

/-- The fields of an entity. -/
def entity? (s : Schema) (name : String) : Option Fields :=
  Keyed.find? name s.entities

/-- Adds an entity, instead of one of the same name. -/
def insert (s : Schema) (name : String) (fields : Fields) : Schema :=
  ⟨Keyed.insert name fields s.entities⟩

/-- The type of a field of an entity. -/
def field? (s : Schema) (entity field : String) : Option FieldType :=
  (s.entity? entity).bind (Keyed.find? field)

end Schema

end RowFilter
