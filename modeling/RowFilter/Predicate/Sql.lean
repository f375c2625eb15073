import RowFilter.Predicate.Basic
import RowFilter.Text.Split

/-! Predicates in SQL: inline, with the literals in place, and as a clause with a placeholder for
    each of its parameters. Parentheses stand around a join on the right of another one, and around
    one on the left that has the other connective. -/

namespace RowFilter

/-- How fields, literals and patterns are written. -/
structure SqlStyle where
  column : String → List Char
  literal : Literal → List Char
  pattern : String → List Char

namespace SqlStyle

/-- A name between double quotes, each double quote in it doubled. -/
def quotedName (cs : List Char) : List Char :=
  '"' :: cs.flatMap (fun c => if c == '"' then ['"', '"'] else [c]) ++ ['"']

/-- Texts with a separator between them. -/
def joined (separator : List Char) : List (List Char) → List Char
  | [] => []
  | [cs] => cs
  | cs :: rest => cs ++ separator ++ joined separator rest

/-- Fields as they are, and literals in place. -/
def inline : SqlStyle where
  column field := field.toList
  literal v := v.chars
  pattern s := (Literal.text s).chars

/-- Quoted names for the parts of a field, and placeholders. -/
def bound : SqlStyle where
  column field := joined ['.'] ((Text.split '.' field.toList).map quotedName)
  literal _ := ['?']
  pattern _ := "? ESCAPE '\\'".toList

end SqlStyle

namespace Comparison

/-- The sign of a comparison. -/
def sign : Comparison → List Char
  | eq => ['=']
  | ne => ['<', '>']
  | gt => ['>']
  | gte => ['>', '=']
  | lt => ['<']
  | lte => ['<', '=']

end Comparison

/-- A test behind its column. -/
def Test.sql (style : SqlStyle) : Test → List Char
  | compare c v => ' ' :: c.sign ++ ' ' :: style.literal v
  | like p => " LIKE ".toList ++ style.pattern p
  | member positive vs =>
    (if positive then " IN (" else " NOT IN (").toList ++
      SqlStyle.joined [',', ' '] (vs.map style.literal) ++ [')']
  | between low high =>
    " BETWEEN ".toList ++ style.literal low ++ " AND ".toList ++ style.literal high
  | null positive => (if positive then " IS NULL" else " IS NOT NULL").toList

/-- The parameters of a test, in the order of their placeholders. -/
def Test.parameters : Test → List Literal
  | like p => [.text p]
  | t => t.literals

namespace Predicate

/-- A text between parentheses. -/
def parenthesized (cs : List Char) : List Char :=
  '(' :: cs ++ [')']

/-- The predicate, an operand of a join by `c`, stands between parentheses. -/
def needsParens (c : Connective) (right : Bool) (p : Predicate) : Bool :=
  match p.connective? with
  | some d => right || d != c
  | none => false

/-- A predicate in SQL. -/
def sql (style : SqlStyle) : Predicate → List Char
  | always => "TRUE".toList
  | leaf c => style.column c.field ++ c.test.sql style
  | join c l r =>
    (if needsParens c false l then parenthesized (l.sql style) else l.sql style) ++
      ' ' :: c.name.toList ++ ' ' ::
      (if needsParens c true r then parenthesized (r.sql style) else r.sql style)
  | negation p => "NOT ".toList ++ parenthesized (p.sql style)
  | raw s => parenthesized s.toList

/-- The readable text of a predicate, literals in place. -/
def display (p : Predicate) : String :=
  String.ofList (p.sql .inline)

/-- The clause of a predicate, with placeholders. -/
def clause (p : Predicate) : String :=
  String.ofList (p.sql .bound)

/-- The parameters of a clause, in the order of the placeholders. -/
def parameters (p : Predicate) : List Literal :=
  p.criteria.flatMap fun c => c.test.parameters

end Predicate

end RowFilter
