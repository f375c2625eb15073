import RowFilter.Filter.Basic

/-! The conditions of a filter, from left to right, however deep they stand in its groups. -/

namespace RowFilter

mutual
/-- The conditions of a group, those of its right side last. -/
def Group.conditions (g : Group) : List Condition :=
  match g with
  | ⟨_, operands, _, right⟩ => Group.operandConditions operands ++ Group.rightConditions right
termination_by structural g

/-- The conditions of operands, in order. -/
def Group.operandConditions (operands : List Operand) : List Condition :=
  match operands with
  | [] => []
  | o :: rest => Operand.conditions o ++ Group.operandConditions rest
termination_by structural operands

/-- The conditions of an operand. -/
def Operand.conditions (o : Operand) : List Condition :=
  match o with
  | .condition c => [c]
  | .group g => Group.conditions g
termination_by structural o

/-- The conditions of a right side, if there is one. -/
def Group.rightConditions (right : Option Group) : List Condition :=
  match right with
  | none => []
  | some g => Group.conditions g
termination_by structural right
end

/-- The conditions of a filter, from left to right. -/
def Filter.conditions : Filter → List Condition
  | empty => []
  | simple conditions => conditions
  | complex g => g.conditions

theorem Group.operandConditions_append (os os' : List Operand) :
    operandConditions (os ++ os') = operandConditions os ++ operandConditions os' := by
  induction os with
  | nil => rfl
  | cons o os ih => rw [List.cons_append, operandConditions, ih, operandConditions, List.append_assoc]

end RowFilter
