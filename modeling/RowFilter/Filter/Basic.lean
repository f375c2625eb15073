import RowFilter.Filter.Operator
import RowFilter.Json.Value

/-! Filters: a list of conditions, all of which must hold, or a group that joins conditions and
    further groups by its connectives. -/

namespace RowFilter

/-- A condition on a field. The value is a scalar, a list of scalars, or null for none. -/
structure Condition where
  field : String
  operator : Operator
  value : Json
  deriving DecidableEq, Repr, Inhabited

namespace Condition

/-- The values that are supplied: the items of a list, nothing for null, or the one value. -/
def values (c : Condition) : List Json :=
  match c.value with
  | .null => []
  | .array items => items
  | j => [j]

end Condition

mutual
/-- A group of operands. Its connective joins them unless each joint has a connective of its own; a
    group on the right side is the last operand. -/
structure Group where
  connective : Connective
  operands : List Operand
  joints : Option (List Connective)
  rightSide : Option Group

/-- An operand of a group. -/
inductive Operand where
  | condition (c : Condition)
  | group (g : Group)
end

deriving instance Repr, BEq, Inhabited for Group
deriving instance Repr, BEq, Inhabited for Operand

namespace Group

/-- A group with one connective for all joints. -/
def uniform (c : Connective) (operands : List Operand) : Group :=
  ⟨c, operands, none, none⟩

/-- The connective at a joint: its own one if the group lists it. -/
def connectiveAt (g : Group) (i : Nat) : Connective :=
  match g.joints with
  | some cs => cs[i]?.getD g.connective
  | none => g.connective

/-- The group has connectives for single joints or a right side. -/
def isReconstructed (g : Group) : Bool :=
  g.joints.isSome || g.rightSide.isSome

end Group

/-- A filter: none at all, a list of conditions, or a group. -/
inductive Filter where
  | empty
  | simple (conditions : List Condition)
  | complex (group : Group)
  deriving Repr, BEq, Inhabited

namespace Filter

/-- No filter at all. -/
def isEmpty : Filter → Bool
  | empty => true
  | _ => false

/-- The name of the query parameter that carries lists of conditions. -/
def simpleName : String := "filter"

/-- The name of the query parameter that carries groups. -/
def complexName : String := "complexFilter"

/-- The name of the query parameter that carries the filter. -/
def parameterName? : Filter → Option String
  | empty => none
  | simple _ => some simpleName
  | complex _ => some complexName

end Filter

end RowFilter
