import RowFilter.Schema.Suggestion
import RowFilter.Text.Split

/-! Resolution of dotted paths: every part but the last leads to a related entity, and the last one
    holds a value. -/

namespace RowFilter

/-- Why a path has no kind. -/
inductive ResolutionError where
  /-- The entity where the path starts, or one it leads to, is not in the schema. -/
  | entity (name : String)
  /-- The path does not end at a value; the suggestion is a path to try instead. -/
  | field (entity path : String) (suggestion : Option String)
  deriving DecidableEq, Repr, Inhabited

namespace ResolutionError

/-- The error in words. -/
def message : ResolutionError → String
  | .entity name => "unknown entity: " ++ name
  | .field start path suggestion =>
    "unknown field '" ++ path ++ "' on entity '" ++ start ++ "'" ++ (match suggestion with
      | some s => " (did you mean '" ++ s ++ "'?)"
      | none => "")

end ResolutionError

namespace Schema

/-- Names with dots between them. -/
def dotted (names : List String) : String :=
  String.intercalate "." names

/-- The kind at the end of a path through the schema. `resolved` holds the parts already followed,
    `fields` those of the entity they lead to. -/
def walk (s : Schema) (entity path : String) (resolved : List String) (fields : Fields) :
    List String → Except ResolutionError Kind
  | [] => .error (.field entity path none)
  | name :: rest =>
    match Keyed.find? name fields with
    | none =>
      let suggestion := Suggestion.forName? name (Keyed.names fields)
      .error (.field entity path (suggestion.map fun n => dotted (resolved ++ [n])))
    | some (.value k) => if rest.isEmpty then .ok k else .error (.field entity path none)
    | some (.relation target) =>
      if rest.isEmpty then .error (.field entity path none)
      else match s.entity? target with
        | none => .error (.entity target)
        | some fields => walk s entity path (resolved ++ [name]) fields rest

/-- The kind of the value at the end of a dotted path from an entity. -/
def resolve (s : Schema) (entity path : String) : Except ResolutionError Kind :=
  match s.entity? entity with
  | none => .error (.entity entity)
  | some fields => s.walk entity path [] fields (Text.segments path)

end Schema

end RowFilter
