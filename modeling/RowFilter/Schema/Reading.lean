import RowFilter.Json.Value
import RowFilter.Schema.Basic

/-! Schemas as JSON documents: an object of entities, each an object of fields. The type of a field is
    the name of a kind, or an object that names the related entity. -/

namespace RowFilter

namespace FieldType

/-- The type that a document declares. The name of a kind may also be the only member of an object,
    with nothing as its value; other members beside `entity` are passed over. -/
def ofJson? : Json → Option FieldType
  | .text s => (Kind.declared? s).map value
  | .object [(name, .null)] => (Kind.declared? name).map value
  | .object members => match members.filter fun m => m.1 == "entity" with
    | [(_, .text entity)] => some (relation entity)
    | _ => none
  | _ => none

/-- The document that declares a type. -/
def toJson : FieldType → Json
  | value k => .text k.name
  | relation entity => .object [("entity", .text entity)]

end FieldType

/-- The fields that a document declares. -/
def Fields.ofJson? : Json → Option Fields
  | .object members => do
    return Keyed.sorted (← members.mapM fun m => do return (m.1, ← FieldType.ofJson? m.2))
  | _ => none

/-- The document that declares fields. -/
def Fields.toJson (fields : Fields) : Json :=
  .object (fields.map fun e => (e.1, e.2.toJson))

/-- The schema that a document declares. -/
def Schema.ofJson? : Json → Option Schema
  | .object members => do
    return ⟨Keyed.sorted (← members.mapM fun m => do return (m.1, ← Fields.ofJson? m.2))⟩
  | _ => none

end RowFilter
