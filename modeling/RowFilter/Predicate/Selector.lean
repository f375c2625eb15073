import RowFilter.Predicate.Evaluation

/-! Selecting rows. A selector prepares the patterns of a predicate once and uses them for every
    row. -/

namespace RowFilter

/-- A predicate with the tokens of each of its patterns that is not too large. -/
structure Selector where
  predicate : Predicate
  patterns : List (String × List Pattern.Token)

namespace Selector

/-- The pattern of a test, if it has one. -/
def patternOf : Test → Option String
  | .like p => some p
  | _ => none

/-- Adds the tokens of a pattern to a table that does not have it yet, if it can be prepared. -/
def addPattern (table : List (String × List Pattern.Token)) (p : String) :
    List (String × List Pattern.Token) :=
  if Keyed.has table p then table
  else match Pattern.prepare? p with
    | some ts => table ++ [(p, ts)]
    | none => table

/-- The selector of a predicate. -/
def ofPredicate (p : Predicate) : Selector :=
  ⟨p, (p.criteria.filterMap fun c => patternOf c.test).foldl addPattern []⟩

/-- The pattern matches the text, by its tokens in the table. -/
def like (s : Selector) (pattern text : String) : Bool :=
  match Keyed.find? pattern s.patterns with
  | some ts => Pattern.matchTokens ts text
  | none => false

/-- The predicate is true of the row. -/
def selects (s : Selector) (row : Json) : Bool :=
  s.predicate.truth s.like row == some true

/-- The rows that are selected, in order. -/
def rows (s : Selector) (all : List Json) : List Json :=
  all.filter s.selects

end Selector

end RowFilter
