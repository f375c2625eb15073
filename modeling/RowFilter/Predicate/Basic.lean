import RowFilter.Filter.Operator
import RowFilter.Literal.Basic

/-! Predicates: trees of tests on single fields, joined two at a time. -/

namespace RowFilter

/-- A test on the value of a field. -/
inductive Test where
  | compare (c : Comparison) (v : Literal)
  | like (pattern : String)
  | member (positive : Bool) (vs : List Literal)
  | between (low high : Literal)
  | null (positive : Bool)
  deriving DecidableEq, Repr, Inhabited

/-- A test on a field, the field being of a kind. -/
structure Criterion where
  field : String
  kind : Kind
  test : Test
  deriving DecidableEq, Repr, Inhabited

/-- A condition on rows. -/
inductive Predicate where
  /-- Every row. -/
  | always
  | leaf (c : Criterion)
  | join (c : Connective) (left right : Predicate)
  | negation (p : Predicate)
  /-- A condition in SQL that is only ever written out. -/
  | raw (sql : String)
  deriving DecidableEq, Repr, Inhabited

/-- The literals of a test, in order. A pattern is none. -/
def Test.literals : Test → List Literal
  | compare _ v => [v]
  | member _ vs => vs
  | between low high => [low, high]
  | like _ | null _ => []

namespace Predicate

/-- The connective of a join. -/
def connective? : Predicate → Option Connective
  | join c _ _ => some c
  | _ => none

/-- The predicate is the one of every row. -/
def isAlways : Predicate → Bool
  | always => true
  | _ => false

/-- The criteria of a predicate, from left to right. -/
def criteria : Predicate → List Criterion
  | always | raw _ => []
  | leaf c => [c]
  | join _ l r => l.criteria ++ r.criteria
  | negation p => p.criteria

/-- Joins operands to a predicate, one after another from the left; `joins i` joins the operand with
    index `i + 1`. -/
def chainFrom (joins : Nat → Connective) (i : Nat) (p : Predicate) : List Predicate → Predicate
  | [] => p
  | q :: rest => chainFrom joins (i + 1) (join (joins i) p q) rest

/-- The operands joined from the left, every row if there are none. -/
def chain (joins : Nat → Connective) : List Predicate → Predicate
  | [] => always
  | p :: rest => chainFrom joins 0 p rest

/-- The predicates joined by "and" from the left. -/
def conjunction (ps : List Predicate) : Predicate :=
  chain (fun _ => .and) ps

end Predicate

end RowFilter
