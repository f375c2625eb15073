import RowFilter.Calendar.Moment
import RowFilter.Json.Printer
import RowFilter.Literal.Kind
import RowFilter.Uuid

/-! Literals: values of a kind as they stand in a predicate, their order, and how they are written
    in messages and in JSON. -/

namespace RowFilter

/-- A value of some kind. -/
inductive Literal where
  | integer (i : Int)
  | float (d : Double)
  | text (s : String)
  | boolean (b : Bool)
  | date (d : Date)
  | dateTime (m : Moment)
  | uuid (u : Uuid)
  deriving DecidableEq, Repr, Inhabited

namespace Literal

/-- The kind of a literal. -/
def kind : Literal → Kind
  | integer _ => .integer
  | float _ => .float
  | text _ => .text
  | boolean _ => .boolean
  | date _ => .date
  | dateTime _ => .dateTime
  | uuid _ => .uuid

/-- The text of a text literal. -/
def text? : Literal → Option String
  | text s => some s
  | _ => none

/-! ### Order -/

/-- The order of two literals. An integer meets a double as the double nearest to it; any other two
    kinds are not ordered. -/
def compare : Literal → Literal → Option Ordering
  | integer a, integer b => some (Ord.compare a b)
  | float a, float b => a.compare b
  | integer a, float b => (Double.ofInt a).compare b
  | float a, integer b => a.compare (Double.ofInt b)
  | text a, text b => some (Ord.compare a b)
  | boolean a, boolean b => some (Ord.compare a b)
  | date a, date b => some (a.compare b)
  | dateTime a, dateTime b => some (a.compare b)
  | uuid a, uuid b => some (Ord.compare a.value b.value)
  | _, _ => none

/-! ### Writing -/

/-- A text between single quotes, each single quote in it doubled. -/
def singleQuoted (cs : List Char) : List Char :=
  '\'' :: cs.flatMap (fun c => if c == '\'' then ['\'', '\''] else [c]) ++ ['\'']

/-- A literal as it is shown in a predicate. -/
def chars : Literal → List Char
  | integer i => Decimal.intText i
  | float d => DoubleNotation.plain.text d
  | text s => singleQuoted s.toList
  | boolean b => if b then "TRUE".toList else "FALSE".toList
  | date d => singleQuoted d.chars
  | dateTime m => singleQuoted m.chars
  | uuid u => singleQuoted u.chars

/-- The text of a literal. -/
def display (v : Literal) : String :=
  String.ofList v.chars

/-- A literal as a filter writes it. A double that is not finite has no JSON form and becomes
    null. -/
def toJson : Literal → Json
  | integer i => .number (.integer i)
  | float d => if d.isFinite then .number (.double d) else .null
  | text s => .text s
  | boolean b => .bool b
  | date d => .text d.text
  | dateTime m => .text m.text
  | uuid u => .text u.text

end Literal

end RowFilter
