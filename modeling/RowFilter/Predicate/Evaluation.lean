import RowFilter.Literal.Coercion
import RowFilter.Predicate.Basic
import RowFilter.Predicate.Pattern
import RowFilter.Text.Split

/-! The truth of predicates on rows. A row is a JSON value, and a dotted field leads through its
    objects. Truth has a third value, unknown: a test other than one for null says nothing about a
    field that is missing or null. -/

namespace RowFilter

/-- True, false or, as `none`, unknown. -/
abbrev Truth := Option Bool

namespace Truth

/-- False if either is false, true if both are true. -/
def and : Truth → Truth → Truth
  | some false, _ | _, some false => some false
  | some true, some true => some true
  | _, _ => none

/-- True if either is true, false if both are false. -/
def or : Truth → Truth → Truth
  | some true, _ | _, some true => some true
  | some false, some false => some false
  | _, _ => none

/-- The other truth value; what is unknown stays unknown. -/
def not : Truth → Truth :=
  Option.map Bool.not

/-- The operation of a connective. -/
def combine : Connective → Truth → Truth → Truth
  | .and => and
  | .or => or

end Truth

namespace Json

/-- The value at the end of a path through objects. -/
def follow (j : Json) : List String → Option Json
  | [] => some j
  | name :: rest => match j.member? name with
    | some k => k.follow rest
    | none => none

/-- The value of a field of a row, unless it is null. -/
def cell? (row : Json) (field : String) : Option Json :=
  (row.follow (Text.segments field)).filter (· ≠ .null)

end Json

/-- Two literals are equal in their order. -/
def Literal.same (a b : Literal) : Bool :=
  a.compare b == some .eq

/-- The truth of a comparison; unknown for values without an order. -/
def Comparison.truth (c : Comparison) (a b : Literal) : Truth :=
  (a.compare b).map c.holds

/-- The truth of a test on a value that is there, `like` deciding about patterns. The upper end of a
    range is looked at only if the lower one admits the value. -/
def Test.truth (like : String → String → Bool) (t : Test) (v : Literal) : Truth :=
  match t with
  | .compare c w => c.truth v w
  | .like p => some (match v.text? with
    | some s => like p s
    | none => false)
  | .member positive ws => some (ws.any v.same == positive)
  | .between low high => match v.compare low with
    | none => none
    | some .lt => some false
    | some _ => (v.compare high).map fun o => o != .gt
  | .null positive => some !positive

/-- The truth of a criterion on a row. A value that is none of the kind fails every test. -/
def Criterion.truth (like : String → String → Bool) (c : Criterion) (row : Json) : Truth :=
  match c.test, row.cell? c.field with
  | .null positive, cell => some (cell.isNone == positive)
  | _, none => none
  | t, some cell => match c.kind.coerce cell with
    | none => some false
    | some v => t.truth like v

namespace Predicate

/-- The truth of a predicate on a row, `like` deciding about patterns. Nothing is known about a
    condition in SQL. -/
def truth (like : String → String → Bool) (row : Json) : Predicate → Truth
  | always => some true
  | leaf c => c.truth like row
  | join c l r => Truth.combine c (l.truth like row) (r.truth like row)
  | negation p => Truth.not (p.truth like row)
  | raw _ => none

/-- The row meets the predicate: it is true of it, not merely unknown. -/
def holds (p : Predicate) (row : Json) : Bool :=
  p.truth Pattern.matchText row == some true

end Predicate

end RowFilter
