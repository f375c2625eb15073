import RowFilter.Text.Blank
import RowFilter.Text.Lowercase

/-! The kinds of values that a field can hold, and their names. -/

namespace RowFilter

/-- A kind of value. -/
inductive Kind where
  | integer
  | float
  | text
  | boolean
  | date
  | dateTime
  | uuid
  deriving DecidableEq, Repr, Inhabited

namespace Kind

/-- The name of a kind in schemas and messages. -/
def name : Kind → String
  | integer => "integer"
  | float => "float"
  | text => "text"
  | boolean => "boolean"
  | date => "date"
  | dateTime => "date_time"
  | uuid => "uuid"

/-- Every name that a schema may use for a kind. -/
def names : List (String × Kind) :=
  [("integer", integer), ("int", integer), ("long", integer),
   ("float", float), ("double", float), ("decimal", float),
   ("text", text), ("string", text),
   ("boolean", boolean), ("bool", boolean),
   ("date", date),
   ("date_time", dateTime), ("datetime", dateTime), ("timestamp", dateTime),
   ("uuid", uuid)]

/-- The kind that a schema names, in exactly this spelling. -/
def declared? (s : String) : Option Kind :=
  names.lookup s

/-- The kind that a text names, blanks around it and the case of its letters aside; failing that,
    the name that was looked up. -/
def ofText (s : String) : Except String Kind :=
  let key := String.ofList (Text.lowercase (Text.trim s.toList))
  match names.lookup key with
  | some k => .ok k
  | none => .error key

/-- What to say about a name that is none of a kind. -/
def unknownMessage (key : String) : String :=
  "unknown value type: " ++ key

/-- Values of the kind have an order that ranges can use. -/
def isOrdered : Kind → Bool
  | boolean | uuid => false
  | _ => true

end Kind

end RowFilter
