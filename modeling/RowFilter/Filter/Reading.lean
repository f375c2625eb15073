import RowFilter.Filter.Decoding
import RowFilter.Filter.LooseReading
import RowFilter.FilterError
import RowFilter.Text.Blank

/-! Reading filters from texts. The text, blanks around it aside, is one JSON document, or differs
    from one only in members that are passed over where the filter stands. -/

namespace RowFilter.Filter

/-- Reads a filter from a text that is no document as a whole. -/
def readLoosely (reader : Reader Json) (decode : Json → Except ShapeError Filter) (cs : List Char) :
    Except FilterError Filter :=
  match Json.whole reader cs with
  | none => .error (.malformed .notJson)
  | some j => match decode j with
    | .ok f => .ok f
    | .error _ => .error (.malformed .notJson)

/-- Reads a filter from a text in an order of reading, `decode` reading the document and `reader` what
    is no document. -/
def readWith (order : MemberOrder) (reader : Reader Json)
    (decode : Json → Except ShapeError Filter) (s : String) : Except FilterError Filter :=
  let cs := Text.trim s.toList
  match Json.readChars cs with
  | none => readLoosely reader decode cs
  | some j => match decode j with
    | .ok f => .ok f
    | .error e => .error (.malformed (.shape order e))

/-- Reads a list of conditions, a single one, or nothing. -/
def readSimple : String → Except FilterError Filter :=
  readWith .written (LooseReading.conditions Json.maxDepth) ofSimple

/-- Reads a group or nothing. -/
def readComplex : String → Except FilterError Filter :=
  readWith .written (LooseReading.group Json.maxDepth) ofComplex

/-- Reads a filter in either form, from a document only. -/
def read : String → Except FilterError Filter :=
  readWith .sorted (fun _ => none) ofEither

end RowFilter.Filter
