import RowFilter.Json.Printer
import RowFilter.Text.Quoted

/-! What can be wrong with the shape of a filter's JSON, and how that is said. A fault belongs to a
    place in the text, a line and a column, that is not part of its words; so words that seem to end
    in a place lose it when they are taken up as a report. -/

namespace RowFilter

/-- What a part of a filter should have been. -/
inductive Shape where
  | string
  | sequence
  | condition
  | group
  deriving DecidableEq, Repr

namespace Shape

/-- The shape in words. -/
def words : Shape → String
  | string => "a string"
  | sequence => "a sequence"
  | condition => "struct FilterCondition"
  | group => "struct FilterGroup"

/-- The greatest number of elements of a condition or a group that is written as an array. -/
def elements : Shape → Nat
  | condition => 3
  | group => 4
  | _ => 0

end Shape

/-- The order in which the members of an object are read: as they are written, where every fault has
    its place in the text, or as those of a value, where the text is no longer known. -/
inductive MemberOrder where
  | written
  | sorted
  deriving DecidableEq, Repr

/-- A fault in the shape of a filter. -/
inductive ShapeError where
  | missing (name : String)
  | repeated (name : String)
  | mismatch (got : Json) (expected : Shape)
  /-- An array with too few elements for a condition or a group. -/
  | tooShort (count : Nat) (expected : Shape)
  /-- An array with too many elements, read where it stands in a text. -/
  | trailing
  /-- An array with too many elements, read as a value. -/
  | tooLong (count : Nat)
  | notAFilter (got : Json)
  | unknownOperator (s : String)
  | unknownConnective (s : String)
  /-- A fault in a part, reported once more by what holds the part. -/
  | within (e : ShapeError)
  deriving DecidableEq, Repr

namespace ShapeError

/-- What was found, in words: the kind of a document, with its text if it is a scalar. -/
def found : Json → String
  | .null => "null"
  | .bool b => "boolean \x60" ++ (if b then "true" else "false") ++ "\x60"
  | .number (.integer i) => "integer \x60" ++ String.ofList (Decimal.intText i) ++ "\x60"
  | .number (.double d) =>
    "floating point \x60" ++ String.ofList (Json.numberText (.double d)) ++ "\x60"
  | .text s => "string " ++ Text.quoted s
  | .array _ => "sequence"
  | .object _ => "map"

/-- The rest of a text behind a front part, if it begins with that. -/
def behind (front cs : List Char) : Option (List Char) :=
  if cs.take front.length == front then some (cs.drop front.length) else none

/-- Takes the digits off the front, at least one. -/
def digitsOff (cs : List Char) : Option (List Char × List Char) :=
  match cs.span Char.isDigit with
  | ([], _) => none
  | (ds, rest) => some (ds, rest)

/-- A message that ends in a place is cut into what stands before, the line and the column. -/
def cutPlace (message : String) : Option (String × Nat × Nat) := do
  let (column, cs) ← digitsOff message.toList.reverse
  let cs ← behind " column ".toList.reverse cs
  let (line, cs) ← digitsOff cs
  let cs ← behind " at line ".toList.reverse cs
  return (String.ofList cs.reverse, Decimal.ofDigits line.reverse, Decimal.ofDigits column.reverse)

/-- Numbers of lines and columns are below this bound. -/
def placeBound : Nat := 2 ^ 64

/-- The words of a fault, and whether a place in the text is known for it. -/
structure Report where
  text : String
  isPlaced : Bool
  deriving DecidableEq, Repr

namespace Report

/-- Takes up a message. A place at its end becomes the place of the fault; a line zero is none. -/
def ofText (message : String) : Report :=
  match cutPlace message with
  | some (text, line, column) =>
    if line < placeBound && column < placeBound then ⟨text, line != 0⟩ else ⟨message, false⟩
  | none => ⟨message, false⟩

/-- Takes up a report once more. -/
def again (r : Report) : Report :=
  if r.isPlaced then r else ofText r.text

/-- The words without a place: the known one is no part of them, and otherwise what looks like one
    at the end is dropped. -/
def bare (r : Report) : String :=
  if r.isPlaced then r.text else ((cutPlace r.text).map Prod.fst).getD r.text

end Report

/-- The fault in words. -/
def words : ShapeError → String
  | missing name => "missing field \x60" ++ name ++ "\x60"
  | repeated name => "duplicate field \x60" ++ name ++ "\x60"
  | mismatch got expected => "invalid type: " ++ found got ++ ", expected " ++ expected.words
  | tooShort count expected =>
    "invalid length " ++ toString count ++ ", expected " ++ expected.words ++ " with " ++
      toString expected.elements ++ " elements"
  | trailing => "trailing characters"
  | tooLong count =>
    "invalid length " ++ toString count ++ ", expected fewer elements in array"
  | notAFilter got => "expected a filter object or array, got " ++ got.compact
  | unknownOperator s => "malformed filter: unknown operator: " ++ s
  | unknownConnective s => "malformed filter: unknown group operator: " ++ s
  | within e => e.words

/-- The report of a fault, taken up again by everything that holds it. -/
def report : ShapeError → Report
  | within e => e.report.again
  | e => .ofText e.words

/-- The message of a fault that was found in this order of reading. -/
def message (order : MemberOrder) (e : ShapeError) : String :=
  match order with
  | .written => e.report.text
  | .sorted => e.report.bare

end ShapeError

end RowFilter
