import RowFilter.Schema.Reading
import RowFilter.Toml.Reader

/-! Configurations: the schema that filters are resolved against, and the entity that is meant when
    none is named. A configuration is a TOML document. -/

namespace RowFilter

/-- A configuration. -/
structure Config where
  defaultEntity : Option String
  schema : Schema
  deriving DecidableEq, Repr, Inhabited

/-- What can go wrong with a configuration. -/
inductive ConfigError where
  | malformed
  | newer (version : Nat)
  | unreadable
  | unwritable
  | noDirectory
  /-- There is no place where a configuration is looked for. -/
  | noLocation
  | present (path : String)
  | noEntities
  | severalEntities
  deriving DecidableEq, Repr

namespace Config

/-- The configuration without entities. -/
def empty : Config := ⟨none, Schema.empty⟩

/-- The version of configurations that are written and understood. -/
def version : Nat := 1

/-- A version is a number that 32 bits hold. -/
def versionBound : Nat := 2 ^ 32

/-! ### Reading -/

/-- The version of a document, the current one if it does not tell. -/
def versionOf (document : Json) : Option Nat :=
  match document.member? "version" with
  | none => some version
  | some (.number (.integer i)) =>
    if 0 ≤ i && i < versionBound then some i.toNat else none
  | some _ => none

/-- The text of a name, if the document has it; `none` stands for anything but a text. -/
def textOf (name : String) (document : Json) : Option (Option String) :=
  match document.member? name with
  | none => some none
  | some (.text s) => some (some s)
  | some _ => none

/-- The fields of an entity: under their name in an object, or first in an array. -/
def fieldsOf : Json → Option Fields
  | .object members => match Keyed.find? "fields" members with
    | none => some []
    | some j => Fields.ofJson? j
  | .array [] => some []
  | .array (j :: _) => Fields.ofJson? j
  | _ => none

/-- The entities of a document. -/
def schemaOf (document : Json) : Option Schema :=
  match document.member? "entities" with
  | none => some Schema.empty
  | some (.object members) => do
    return ⟨Keyed.sorted (← members.mapM fun m => do return (m.1, ← fieldsOf m.2))⟩
  | some _ => none

/-- The configuration of a document. Other names are passed over. -/
def ofDocument (document : Json) : Except ConfigError Config :=
  match versionOf document, textOf "default_entity" document, schemaOf document with
  | some v, some entity, some schema =>
    if v ≤ version then .ok ⟨entity, schema⟩ else .error (.newer v)
  | _, _, _ => .error .malformed

/-- The configuration that a text writes. -/
def read (s : String) : Except ConfigError Config :=
  match Toml.read s with
  | some document => ofDocument document
  | none => .error .malformed

/-! ### Use -/

/-- The entity to work on: the one that is asked for, else the default, else the only one. -/
def choose (c : Config) (asked : Option String) : Except ConfigError String :=
  match asked <|> c.defaultEntity, c.schema.entities with
  | some name, _ => .ok name
  | none, [(name, _)] => .ok name
  | none, [] => .error .noEntities
  | none, _ => .error .severalEntities

/-- The document of a configuration. -/
def toJson (c : Config) : Json :=
  .object <| (c.defaultEntity.toList.map fun name => ("default_entity", .text name)) ++
    [("entities", .object (c.schema.entities.map fun e =>
      (e.1, .object [("fields", Fields.toJson e.2)]))),
     ("version", .number (.integer version))]

end Config

namespace ConfigError

/-- The error in words. -/
def message : ConfigError → String
  | malformed => "Failed to parse config"
  | newer v =>
    "config version " ++ toString v ++ " is newer than this rq supports (" ++
      toString Config.version ++ ")"
  | unreadable => "Failed to read config"
  | unwritable => "Failed to write config"
  | noDirectory => "Failed to create config directory"
  | noLocation => "Could not determine config directory"
  | present path => path ++ " already exists (use --force to overwrite)"
  | noEntities => "no entities configured. Run 'rq config init' to create an example config"
  | severalEntities => "several entities configured; pass --entity or set default_entity"

end ConfigError

end RowFilter
