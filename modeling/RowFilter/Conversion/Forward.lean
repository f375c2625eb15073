import RowFilter.Filter.Basic
import RowFilter.FilterError
import RowFilter.Literal.Coercion
import RowFilter.Predicate.Pattern

/-! From filters to predicates. Every condition becomes a criterion, its field resolved, its
    operator checked against the number of values and the kind of the field, and its values coerced;
    the operands of a group are joined from the left. The first fault ends the conversion.

    How fields are resolved is a parameter, and may have effects of its own. -/

namespace RowFilter

namespace Operator

/-- The operator means something for values of the kind. -/
def appliesTo (o : Operator) (k : Kind) : Bool :=
  !(o.isPattern && k != .text) && !(o.isRange && !k.isOrdered)

/-- The test of an operator with these literals, if their number fits. -/
def test? (o : Operator) (vs : List Literal) : Option Test :=
  match o, vs with
  | compare c, [v] => some (.compare c v)
  | pattern a, [v] => some (.like (Pattern.anchored a (v.text?.getD "")))
  | member positive, vs => some (.member positive vs)
  | between, [low, high] => some (.between low high)
  | null positive, [] => some (.null positive)
  | _, _ => none

end Operator

namespace Condition

/-- The literals of a kind for the values of a condition, or the first value that is none. -/
def literals (field : String) (k : Kind) : List Json → Except FilterError (List Literal)
  | [] => .ok []
  | j :: rest => match k.coerce j with
    | none => .error (.coercion field k j)
    | some v => (v :: ·) <$> literals field k rest

/-- The criterion of a condition on a field of a kind. -/
def criterion (c : Condition) (k : Kind) : Except FilterError Criterion := do
  let values := c.values
  unless c.operator.arity.accepts values.length do
    throw (.arity c.operator values.length)
  unless c.operator.appliesTo k do
    throw (.operatorKind c.operator c.field k)
  let vs ← literals c.field k values
  match c.operator.test? vs with
  | some t => return ⟨c.field, k, t⟩
  | none => throw (.arity c.operator vs.length)

end Condition

namespace Group

/-- The number of joints between the operands, the right side being one of them. -/
def jointCount (g : Group) : Nat :=
  g.operands.length - 1 + (if g.rightSide.isSome then 1 else 0)

/-- The fault of a group as such: no operands, or connectives that do not match the joints. -/
def fault? (g : Group) : Option FilterError :=
  if g.operands.isEmpty then some .emptyGroup
  else match g.joints with
    | some cs =>
      if cs.length = g.jointCount then none
      else some (.jointCount g.jointCount g.operands.length cs.length)
    | none => none

end Group

namespace Conversion

variable {m : Type → Type} [Monad m] [MonadExceptOf FilterError m]

/-- The predicate of a condition. -/
def ofCondition (resolve : String → m Kind) (c : Condition) : m Predicate := do
  let k ← resolve c.field
  match c.criterion k with
  | .ok criterion => return .leaf criterion
  | .error e => throw e

mutual
/-- The predicate of a group. -/
def ofGroup (resolve : String → m Kind) (g : Group) : m Predicate :=
  match g with
  | ⟨connective, operands, joints, right⟩ => do
    let g : Group := ⟨connective, operands, joints, right⟩
    match g.fault? with
    | some e => throw e
    | none =>
      let ps ← ofOperands resolve operands
      let qs ← ofRightSide resolve right
      return Predicate.chain g.connectiveAt (ps ++ qs)
termination_by structural g

/-- The predicates of operands, in order. -/
def ofOperands (resolve : String → m Kind) (operands : List Operand) : m (List Predicate) :=
  match operands with
  | [] => pure []
  | o :: rest => do
    let p ← ofOperand resolve o
    let ps ← ofOperands resolve rest
    return p :: ps
termination_by structural operands

/-- The predicate of an operand. -/
def ofOperand (resolve : String → m Kind) (o : Operand) : m Predicate :=
  match o with
  | .condition c => ofCondition resolve c
  | .group g => ofGroup resolve g
termination_by structural o

/-- The predicate of a right side, if there is one. -/
def ofRightSide (resolve : String → m Kind) (right : Option Group) : m (List Predicate) :=
  match right with
  | none => pure []
  | some g => do
    let p ← ofGroup resolve g
    return [p]
termination_by structural right
end

/-- The predicates of conditions, in order. -/
def ofConditions (resolve : String → m Kind) : List Condition → m (List Predicate)
  | [] => pure []
  | c :: rest => do
    let p ← ofCondition resolve c
    let ps ← ofConditions resolve rest
    return p :: ps

/-- The predicate of a filter; no filter, and no conditions, admit every row. -/
def ofFilter (resolve : String → m Kind) : Filter → m Predicate
  | .empty => pure .always
  | .simple conditions => Predicate.conjunction <$> ofConditions resolve conditions
  | .complex g => ofGroup resolve g

end Conversion

namespace Schema

/-- The kind of a field of an entity, for conversions. -/
def kindOf (s : Schema) (entity field : String) : Except FilterError Kind :=
  match s.resolve entity field with
  | .ok k => .ok k
  | .error e => .error (.resolution e)

/-- The predicate of a filter on an entity. -/
def compile (s : Schema) (entity : String) (f : Filter) : Except FilterError Predicate :=
  Conversion.ofFilter (s.kindOf entity) f

end Schema

end RowFilter
