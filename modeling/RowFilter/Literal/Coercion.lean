import RowFilter.Literal.Basic

/-! Coercion of JSON values into literals of a kind. Texts of numbers, truth values, dates and
    identifiers are read with the blanks around them dropped. -/

namespace RowFilter.Kind

/-- The text of a JSON value that a text field takes. -/
def textOf? : Json → Option String
  | .text s => some s
  | .number n => some (String.ofList (Json.numberText n))
  | .bool b => some (if b then "true" else "false")
  | _ => none

/-- The integer that a text writes, if 64 bits hold it. -/
def integerOf? (cs : List Char) : Option Int :=
  (Decimal.int? cs).filter JsonNumber.isSigned

/-- The truth value that a text names, in any case of letters. -/
def truthOf? (cs : List Char) : Option Bool :=
  let word := String.ofList (Text.lowercase cs)
  if word == "true" then some true
  else if word == "false" then some false
  else none

/-- The literal of a kind that a JSON value stands for. -/
def coerce (k : Kind) (j : Json) : Option Literal :=
  match k, j with
  | text, j => (textOf? j).map .text
  | integer, .number n => n.signed?.map .integer
  | integer, .text s => (integerOf? (Text.trim s.toList)).map .integer
  | float, .number n => some (.float n.toDouble)
  | float, .text s => ((Double.ofText? (Text.trim s.toList)).filter Double.isFinite).map .float
  | boolean, .bool b => some (.boolean b)
  | boolean, .text s => (truthOf? (Text.trim s.toList)).map .boolean
  | date, .text s => (Date.ofChars? (Text.trim s.toList)).map .date
  | dateTime, .text s => (Moment.ofChars? (Text.trim s.toList)).map .dateTime
  | uuid, .text s => (Uuid.ofChars? (Text.trim s.toList)).map .uuid
  | _, _ => none

end RowFilter.Kind
