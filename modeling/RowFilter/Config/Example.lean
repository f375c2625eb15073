import RowFilter.Config.Basic

/-! The example of a configuration: two entities, one of them the default and related to the
    other. -/

namespace RowFilter.Config

/-- The lines of the example. -/
def exampleLines : List String :=
  ["# rq - query filter CLI configuration",
   "",
   "# Config schema version (do not modify)",
   "version = 1",
   "",
   "# Entity used when --entity is not given",
   "default_entity = \"user\"",
   "",
   "# Each entity lists its filterable fields. Scalar types are",
   "# integer, float, text, boolean, date, date_time and uuid.",
   "# A table with an \x60entity\x60 key links to another entity, so",
   "# filters can use dotted paths such as \"address.city\".",
   "[entities.user.fields]",
   "age = \"integer\"",
   "name = \"text\"",
   "status = \"text\"",
   "active = \"boolean\"",
   "joined = \"date\"",
   "address = \x7b entity = \"address\" \x7d",
   "",
   "[entities.address.fields]",
   "city = \"text\"",
   "zip = \"text\""]

/-- The text of the example. -/
def exampleText : String :=
  String.join (exampleLines.map fun line => line ++ "\n")

end RowFilter.Config
