import RowFilter.Filter.Basic
import RowFilter.Filter.ShapeError

/-! Reading filters from JSON. A condition or a group is an object, or an array of its parts in
    order. The parts of an object are read one after another, and the first fault ends the reading;
    parts with other names are passed over.

    The outermost groups and conditions may be read as they are written, in the order of the text,
    where no name may repeat. Operands are always read as values: names in ascending order, the last
    one of each name. -/

namespace RowFilter

namespace MemberOrder

/-- Puts members into the order. -/
def arrange {α : Type} : MemberOrder → Keyed α → Keyed α
  | written, l => l
  | sorted, l => Keyed.sorted l

/-- The fault of an array with too many elements. -/
def excess : MemberOrder → Nat → ShapeError
  | written, _ => .trailing
  | sorted, count => .tooLong count

end MemberOrder

namespace Decoding

/-- A part of an object under its proper name, or the fault in it. -/
abbrev Part (α : Type) := String × Except ShapeError α

/-- The parts that were read, if no name repeats and no part has a fault. Of two faults the first
    one counts, and of two in one place the repeated name. -/
def collect {α : Type} (seen : List String) : List (Part α) → Except ShapeError (List α)
  | [] => .ok []
  | (name, part) :: rest =>
    if seen.contains name then .error (.repeated name)
    else do
      let a ← part
      let as ← collect (name :: seen) rest
      return a :: as

/-- The parts of an object, in the order they are read. Members with other names have no part. -/
def gather {α : Type} (order : MemberOrder) (l : Keyed (Option (Part α))) :
    Except ShapeError (List α) :=
  collect [] ((order.arrange l).filterMap Prod.snd)

/-- A text. -/
def string (j : Json) : Except ShapeError String :=
  match j with
  | .text s => .ok s
  | j => .error (.mismatch j .string)

/-- An operator by one of its spellings. -/
def operator (j : Json) : Except ShapeError Operator := do
  let s ← string j
  match Operator.ofText? s with
  | some o => .ok o
  | none => .error (.unknownOperator s)

/-- A connective by one of its spellings. -/
def connective (j : Json) : Except ShapeError Connective := do
  let s ← string j
  match Connective.ofText? s with
  | some c => .ok c
  | none => .error (.unknownConnective s)

/-- The connectives of single joints, if there are any. -/
def joints (j : Json) : Except ShapeError (Option (List Connective)) :=
  match j with
  | .null => .ok none
  | .array items => some <$> items.mapM connective
  | j => .error (.mismatch j .sequence)

/-! ### Conditions -/

/-- A part of a condition. -/
inductive ConditionPart where
  | field (s : String)
  | operator (o : Operator)
  | value (j : Json)
  deriving Repr

/-- The part that a member of a condition gives. -/
def conditionPart (name : String) (j : Json) : Option (Part ConditionPart) :=
  if name = "field" then some ("field", .field <$> string j)
  else if name = "operator" then some ("operator", .operator <$> operator j)
  else if name = "value" then some ("value", .ok (.value j.canonical))
  else none

/-- The condition of some parts. -/
def assembleCondition (parts : List ConditionPart) : Except ShapeError Condition :=
  let field? := parts.findSome? fun | .field s => some s | _ => none
  let operator? := parts.findSome? fun | .operator o => some o | _ => none
  let value? := parts.findSome? fun | .value j => some j | _ => none
  match field?, operator? with
  | none, _ => .error (.missing "field")
  | _, none => .error (.missing "operator")
  | some f, some o => .ok ⟨f, o, value?.getD .null⟩

/-- A condition. -/
def condition (order : MemberOrder) (j : Json) : Except ShapeError Condition :=
  match j with
  | .object members => do
    let parts ← gather order (members.map fun m => (m.1, conditionPart m.1 m.2))
    assembleCondition parts
  | .array [] => .error (.tooShort 0 .condition)
  | .array [f] => do
    let _ ← string f
    .error (.tooShort 1 .condition)
  | .array (f :: o :: rest) => do
    let f ← string f
    let o ← operator o
    if 1 < rest.length then .error (order.excess (rest.length + 2))
    else .ok ⟨f, o, (rest.head?.map Json.canonical).getD .null⟩
  | j => .error (.mismatch j .condition)

/-! ### Groups -/

/-- A part of a group. -/
inductive GroupPart where
  | connective (c : Connective)
  | operands (l : List Operand)
  | joints (cs : Option (List Connective))
  | rightSide (g : Option Group)

/-- An object with one of these names is a group. -/
def isGroup (members : List (String × Json)) : Bool :=
  Keyed.has members "operations" || Keyed.has members "groupOperations"

/-- The group of some parts. -/
def assembleGroup (parts : List GroupPart) : Except ShapeError Group :=
  let connective? := parts.findSome? fun | .connective c => some c | _ => none
  let operands? := parts.findSome? fun | .operands l => some l | _ => none
  let joints? := parts.findSome? fun | .joints cs => some cs | _ => none
  let rightSide? := parts.findSome? fun | .rightSide g => some g | _ => none
  match connective?, operands? with
  | none, _ => .error (.missing "operator")
  | _, none => .error (.missing "operations")
  | some c, some l => .ok ⟨c, l, joints?.getD none, rightSide?.getD none⟩

/-- The group of the members of an object. -/
def groupOfParts (order : MemberOrder) (l : Keyed (Option (Part GroupPart))) :
    Except ShapeError Group := do
  let parts ← gather order l
  assembleGroup parts

mutual
/-- The parts of a group, each under the name of its member. -/
def groupParts (order : MemberOrder) (members : List (String × Json)) :
    Keyed (Option (Part GroupPart)) :=
  match members with
  | [] => []
  | m :: rest => groupPart order m :: groupParts order rest
termination_by structural members

/-- The part that a member of a group gives. -/
def groupPart (order : MemberOrder) (m : String × Json) : String × Option (Part GroupPart) :=
  match m with
  | (name, j) =>
    (name,
      if name = "operator" ∨ name = "groupOperator" then
        some ("operator", .connective <$> connective j)
      else if name = "operations" ∨ name = "groupOperations" then
        some ("operations", .operands <$> operands j)
      else if name = "nonPriorityGroupOperators" ∨ name = "nonPriorityOperators" then
        some ("nonPriorityGroupOperators", .joints <$> joints j)
      else if name = "rightSideOperands" then
        some ("rightSideOperands", .rightSide <$> rightSide order j)
      else none)
termination_by structural m

/-- The group that the items of an array make. -/
def groupItems (order : MemberOrder) (items : List Json) : Except ShapeError Group :=
  match items with
  | [] => .error (.tooShort 0 .group)
  | [c] => do
    let _ ← connective c
    .error (.tooShort 1 .group)
  | [c, l] => do
    let c ← connective c
    let l ← operands l
    .ok ⟨c, l, none, none⟩
  | [c, l, cs] => do
    let c ← connective c
    let l ← operands l
    let cs ← joints cs
    .ok ⟨c, l, cs, none⟩
  | c :: l :: cs :: g :: rest => do
    let c ← connective c
    let l ← operands l
    let cs ← joints cs
    let g ← rightSide order g
    if rest.isEmpty then .ok ⟨c, l, cs, g⟩ else .error (order.excess (rest.length + 4))
termination_by structural items

/-- The right side of a group, if there is one. -/
def rightSide (order : MemberOrder) (j : Json) : Except ShapeError (Option Group) :=
  match j with
  | .null => .ok none
  | .object members => some <$> groupOfParts order (groupParts order members)
  | .array items => some <$> groupItems order items
  | j => .error (.mismatch j .group)
termination_by structural j

/-- The operands of a group. -/
def operands (j : Json) : Except ShapeError (List Operand) :=
  match j with
  | .array items => operandList items
  | j => .error (.mismatch j .sequence)
termination_by structural j

/-- The operands that are items of an array. -/
def operandList (items : List Json) : Except ShapeError (List Operand) :=
  match items with
  | [] => .ok []
  | j :: rest => do
    let o ← operand j
    let l ← operandList rest
    return o :: l
termination_by structural items

/-- An operand: a group if it is an object with operations, and otherwise a condition. A fault in
    it is reported by the operand as a whole. -/
def operand (j : Json) : Except ShapeError Operand :=
  match j with
  | .object members =>
    if isGroup members then
      Operand.group <$> (groupOfParts .sorted (groupParts .sorted members)).mapError .within
    else Operand.condition <$> (condition .sorted (.object members)).mapError .within
  | j => Operand.condition <$> (condition .sorted j).mapError .within
termination_by structural j
end

/-- A group. -/
def group (order : MemberOrder) (j : Json) : Except ShapeError Group :=
  match j with
  | .object members => groupOfParts order (groupParts order members)
  | .array items => groupItems order items
  | j => .error (.mismatch j .group)

end Decoding

namespace Filter

/-- A list of conditions, a single one, or nothing, read as it is written. -/
def ofSimple (j : Json) : Except ShapeError Filter :=
  match j with
  | .null => .ok empty
  | .array items => simple <$> items.mapM (Decoding.condition .written)
  | j => (fun c => simple [c]) <$> Decoding.condition .written j

/-- A group or nothing, read as it is written. -/
def ofComplex (j : Json) : Except ShapeError Filter :=
  match j with
  | .null => .ok empty
  | j => complex <$> Decoding.group .written j

/-- A filter in either form, told apart by its shape and read as a value. A fault in it is reported
    by the filter as a whole. -/
def ofEither (j : Json) : Except ShapeError Filter :=
  match j with
  | .null => .ok empty
  | .array items => simple <$> (items.mapM (Decoding.condition .sorted)).mapError .within
  | .object members =>
    if Decoding.isGroup members then
      complex <$> (Decoding.group .sorted (.object members)).mapError .within
    else (fun c => simple [c]) <$> (Decoding.condition .sorted (.object members)).mapError .within
  | j => .error (.notAFilter j)

end Filter

end RowFilter
