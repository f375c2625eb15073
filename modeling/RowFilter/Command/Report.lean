import RowFilter.Command.Style
import RowFilter.Config.Basic
import RowFilter.Filter.Encoding
import RowFilter.Predicate.Sql

/-! What the commands print: predicates, filters, rows, schemas and the configuration, as text or as
    JSON over several lines. -/

namespace RowFilter.Report

open Style

/-- A document over several lines. -/
def document (j : Json) : String :=
  line j.pretty

/-- A number in a document. -/
def count (n : Nat) : Json :=
  .number (.integer n)

/-! ### Predicates and filters -/

/-- A predicate for the entity it is meant for, and its clause in SQL. -/
def compiledJson (entity : String) (p : Predicate) : String :=
  document (.object [("entity", .text entity), ("predicate", .text p.display),
    ("sql", .object [("clause", .text p.clause),
      ("params", .array (p.parameters.map Literal.toJson))])])

/-- A parameter of a clause, with its number from one on and its kind. -/
def parameterLine (colors : Bool) (v : Literal) (i : Nat) : String :=
  line ("  " ++ dimmed colors ("?" ++ toString (i + 1)) ++ " " ++ v.display ++ " " ++
    dimmed colors v.kind.name)

/-- The clause of a predicate and its parameters. -/
def sqlText (colors : Bool) (p : Predicate) : String :=
  line p.clause ++ String.join (p.parameters.zipIdx.map fun (v, i) => parameterLine colors v i)

/-- A filter with the predicate it was made from. -/
def reversedJson (entity : String) (p : Predicate) (f : Filter) : String :=
  document (.object ([("entity", .text entity), ("predicate", .text p.display)] ++
    (f.parameterName?.toList.map fun name => ("param", .text name)) ++ [("filter", f.toJson)]))

/-- A filter under the name of its parameter. -/
def reversedText (colors : Bool) (f : Filter) : String :=
  match f.parameterName? with
  | some name => line (heading colors (name ++ ":")) ++ document f.toJson
  | none => line "No filter (matches every row)."

/-! ### Rows -/

/-- Rows with their count and that of all rows. -/
def rowsJson (rows : List Json) (total : Nat) : String :=
  document (.object [("matched", count rows.length), ("total", count total),
    ("rows", .array rows)])

/-- Rows, each on a line. -/
def rowLines (rows : List Json) : String :=
  String.join (rows.map fun row => line row.compact)

/-- How many rows there are among all. -/
def rowSummary (matched total : Nat) : String :=
  line (counted matched "row" ++ " of " ++ toString total ++ " matched")

/-! ### Schemas -/

/-- The entities of a schema with their fields. -/
def entitiesJson (entities : Keyed Fields) (default : Option String) : String :=
  document (.object [("entities", .array (entities.map fun e =>
    .object [("fields", Fields.toJson e.2), ("is_default", .bool (default == some e.1)),
      ("name", .text e.1)]))])

/-- A line of the table of entities. -/
def entityLine (mark name fields : String) : String :=
  column 3 mark ++ " " ++ column 20 name ++ " " ++ fields

/-- The table of entities, the default one marked. -/
def entityTable (colors : Bool) (entities : Keyed Fields) (default : Option String) : String :=
  if entities.isEmpty then
    line "No entities configured. Run 'rq config init' to create an example."
  else
    line (dimmed colors (entityLine "" "Entity" "Fields")) ++
      String.join (entities.map fun e =>
        line (entityLine (if default == some e.1 then "*" else "") e.1 (toString e.2.length)))

/-- The type of a field, an arrow leading to a related entity. -/
def typeText (colors : Bool) : FieldType → String
  | .value k => k.name
  | .relation entity => cyan colors ("-> " ++ entity)

/-- A line of the table of fields. -/
def fieldLine (name type : String) : String :=
  column 24 name ++ " " ++ type

/-- The table of the fields of an entity. -/
def fieldTable (colors : Bool) (entity : String) (fields : Fields) : String :=
  if fields.isEmpty then line ("Entity '" ++ entity ++ "' has no fields.")
  else
    line (dimmed colors (fieldLine "Field" "Type")) ++
      String.join (fields.map fun e => line (fieldLine e.1 (typeText colors e.2)))

/-! ### The configuration -/

/-- Whether something is so, in a word. -/
def word (b : Bool) : String :=
  if b then "true" else "false"

/-- The configuration at a path. -/
def configJson (c : Config) (path : String) (present : Bool) : String :=
  document (.object [("config", c.toJson), ("exists", .bool present), ("path", .text path)])

/-- The settings of a configuration. -/
def settings (c : Config) : String :=
  line "Settings:" ++
    String.join (c.defaultEntity.toList.map fun name => line ("  default_entity: " ++ name)) ++
    String.join (c.schema.entities.map fun e =>
      line "" ++ line ("[entities." ++ e.1 ++ "]") ++
        line ("  fields: " ++ toString e.2.length))

/-- The configuration at a path in words. -/
def configText (colors : Bool) (c : Config) (path : String) (present : Bool) : String :=
  line (heading colors "Configuration") ++ line "" ++ line ("File: " ++ path) ++
    line ("Exists: " ++ word present) ++ line "" ++
    (if present then settings c
      else line "(No config file exists. Run 'rq config init' to create one.)")

/-- The path of the configuration. -/
def pathJson (path : String) (present : Bool) : String :=
  document (.object [("exists", .bool present), ("path", .text path)])

/-- A configuration was made. -/
def createdJson (path : String) : String :=
  document (.object [("path", .text path), ("status", .text "created")])

/-- A configuration was made, in words. -/
def createdText (path : String) : String :=
  line ("Created config at: " ++ path)

/-! ### The program -/

/-- What the program is. -/
def overview : String :=
  line "rq - compile, reverse and apply JSON query filters" ++
    line "Use --help for usage information"

end RowFilter.Report
