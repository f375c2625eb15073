import RowFilter.Filter.ShapeError
import RowFilter.Filter.Operator
import RowFilter.Predicate.Sql
import RowFilter.Schema.Resolution

/-! Why a filter cannot be read or converted, and how that is said. -/

namespace RowFilter

/-- What is wrong with the text of a filter. -/
inductive Malformation where
  /-- The text is not a JSON document. -/
  | notJson
  | shape (order : MemberOrder) (e : ShapeError)
  | unknownOperator (s : String)
  | unknownConnective (s : String)
  /-- A query string carries a parameter of filters more than once. -/
  | repeatedParameter (name : String)
  deriving DecidableEq, Repr

namespace Malformation

/-- The fault in words. -/
def message : Malformation → String
  | notJson => "not a JSON document"
  | shape order e => e.message order
  | unknownOperator s => "unknown operator: " ++ s
  | unknownConnective s => "unknown group operator: " ++ s
  | repeatedParameter name => "invalid query string: " ++ (ShapeError.repeated name).words

end Malformation

/-- A part of a predicate that no filter expresses. -/
inductive Inexpressible where
  | nestedAlways
  | negation (p : Predicate)
  | raw (sql : String)
  /-- The field is tested as a kind that is not its own. -/
  | kind (field : String) (used declared : Kind)
  /-- The pattern does not look for one text at the front, at the back or anywhere. -/
  | pattern (pattern field : String)
  deriving DecidableEq, Repr

namespace Inexpressible

/-- The part in words. -/
def words : Inexpressible → String
  | nestedAlways => "nested always-true predicate"
  | negation p => "negation NOT (" ++ p.display ++ ")"
  | raw sql => "raw SQL fragment (" ++ sql ++ ")"
  | kind field used declared =>
    "'" ++ field ++ "' compared as " ++ used.name ++ " but declared " ++ declared.name
  | pattern p field => "LIKE pattern '" ++ p ++ "' on '" ++ field ++ "'"

end Inexpressible

/-- Why a filter cannot be read or converted, in either direction. -/
inductive FilterError where
  | malformed (m : Malformation)
  | resolution (e : ResolutionError)
  /-- The value is none of the kind of the field. -/
  | coercion (field : String) (kind : Kind) (value : Json)
  | arity (operator : Operator) (count : Nat)
  /-- The operator means nothing for values of the kind. -/
  | operatorKind (operator : Operator) (field : String) (kind : Kind)
  | emptyGroup
  /-- A group lists a wrong number of connectives. -/
  | jointCount (expected operands count : Nat)
  | inexpressible (part : Inexpressible)
  deriving DecidableEq, Repr

namespace FilterError

/-- The error in words. -/
def message : FilterError → String
  | malformed m => "malformed filter: " ++ m.message
  | resolution e => e.message
  | coercion field kind value =>
    "cannot use " ++ value.compact ++ " as " ++ kind.name ++ " for field '" ++ field ++ "'"
  | arity operator count =>
    "operator '" ++ operator.name ++ "' expects " ++ operator.arity.text ++ " value(s), got " ++
      toString count
  | operatorKind operator field kind =>
    "operator '" ++ operator.name ++ "' cannot be applied to " ++ kind.name ++ " field '" ++
      field ++ "'"
  | emptyGroup => "invalid group: group has no operations"
  | jointCount expected operands count =>
    "invalid group: expected " ++ toString expected ++ " non-priority operator(s) for " ++
      toString operands ++ " operation(s), got " ++ toString count
  | inexpressible part => "unsupported predicate shape: " ++ part.words

end FilterError

end RowFilter
