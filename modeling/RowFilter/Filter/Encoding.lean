import RowFilter.Filter.Basic
import RowFilter.Json.Printer

/-! The JSON form in which filters are written: members in a fixed order, and what is null or absent
    left out. -/

namespace RowFilter

namespace Condition

/-- The members of a condition. -/
def members (c : Condition) : List (String × Json) :=
  [("field", .text c.field), ("operator", .text c.operator.name)] ++
    (if c.value = .null then [] else [("value", c.value)])

/-- The JSON form of a condition. -/
def toJson (c : Condition) : Json :=
  .object c.members

end Condition

mutual
/-- The JSON form of a group. -/
def Group.toJson (g : Group) : Json :=
  match g with
  | ⟨connective, operands, joints, rightSide⟩ =>
    .object <|
      [("operator", .text connective.name), ("operations", .array (Operand.toJsons operands))] ++
      (match joints with
        | some cs => [("nonPriorityGroupOperators", .array (cs.map fun c => .text c.name))]
        | none => []) ++
      Group.rightMembers rightSide
termination_by structural g

/-- The member for the right side of a group. -/
def Group.rightMembers (right : Option Group) : List (String × Json) :=
  match right with
  | none => []
  | some g => [("rightSideOperands", g.toJson)]
termination_by structural right

/-- The JSON forms of operands. -/
def Operand.toJsons (operands : List Operand) : List Json :=
  match operands with
  | [] => []
  | o :: rest => o.toJson :: Operand.toJsons rest
termination_by structural operands

/-- The JSON form of an operand. -/
def Operand.toJson (o : Operand) : Json :=
  match o with
  | .condition c => c.toJson
  | .group g => g.toJson
termination_by structural o
end

namespace Filter

/-- The JSON form of a filter. -/
def toJson : Filter → Json
  | empty => .null
  | simple conditions => .array (conditions.map Condition.toJson)
  | complex group => group.toJson

/-- The query parameter that carries the filter: its name and its text. -/
def parameter? (f : Filter) : Option (String × String) :=
  f.parameterName?.map fun name => (name, f.toJson.compact)

end Filter

end RowFilter
