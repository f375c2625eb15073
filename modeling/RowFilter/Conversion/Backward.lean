import RowFilter.Conversion.Forward
import RowFilter.Schema.Catalog

/-! From predicates back to filters. The left spine of a predicate becomes a group: its operands are
    the criteria along the spine, and a join further right becomes the right side of the group. A
    group that has a right side already becomes the first operand of a new one. -/

namespace RowFilter

/-- A group in the making: its operands, the connectives between them and before the right side, and
    the right side. -/
structure PartialGroup where
  operands : List Operand
  joints : List Connective
  rightSide : Option Group

namespace PartialGroup

/-- The group of one operand. -/
def single (o : Operand) : PartialGroup :=
  ⟨[o], [], none⟩

/-- The neighbours in a list are equal. -/
def isUniform : List Connective → Bool
  | c :: d :: rest => c == d && isUniform (d :: rest)
  | _ => true

/-- The finished group. Joints are listed one by one unless they are all equal. -/
def finish (g : PartialGroup) : Group where
  connective := g.joints.head?.getD .and
  operands := g.operands
  joints := if isUniform g.joints then none else some g.joints
  rightSide := g.rightSide

/-- Joins a condition on the right. -/
def push (g : PartialGroup) (c : Connective) (o : Operand) : PartialGroup :=
  match g.rightSide with
  | none => { g with operands := g.operands ++ [o], joints := g.joints ++ [c] }
  | some _ => ⟨[.group g.finish, o], [c], none⟩

/-- Joins a group on the right. -/
def nest (g : PartialGroup) (c : Connective) (right : Group) : PartialGroup :=
  match g.rightSide with
  | none => { g with joints := g.joints ++ [c], rightSide := some right }
  | some _ => ⟨[.group g.finish], [c], some right⟩

/-- The conditions of operands that are no groups. -/
def conditions? : List Operand → Option (List Condition)
  | [] => some []
  | .condition c :: rest => (conditions? rest).map (c :: ·)
  | .group _ :: _ => none

/-- The filter: a list if the group is made of conditions that must all hold. -/
def toFilter (g : PartialGroup) : Filter :=
  match g.rightSide, g.joints.all (· == .and), conditions? g.operands with
  | none, true, some cs => .simple cs
  | _, _, _ => .complex g.finish

end PartialGroup

namespace Criterion

/-- A field of the kind can be compared with the literal. A double is compared with integers as
    well. -/
def fits (k : Kind) (v : Literal) : Bool :=
  v.kind == k || (k == .float && v.kind == .integer)

/-- The value of a condition: one alone, unless the operator takes a list. -/
def valueOf (o : Operator) (js : List Json) : Json :=
  match js with
  | [j] => if o.takesList then .array [j] else j
  | js => .array js

/-- The condition of a criterion on a field of a kind. -/
def condition (c : Criterion) (k : Kind) : Except FilterError Condition := do
  if c.kind != k then
    throw (.inexpressible (.kind c.field c.kind k))
  if let some v := c.test.literals.find? fun v => !fits k v then
    throw (.coercion c.field k v.toJson)
  match c.test with
  | .compare op v => return ⟨c.field, .compare op, valueOf (.compare op) [v.toJson]⟩
  | .like p =>
    if k != .text then
      throw (.operatorKind (.pattern .anywhere) c.field k)
    match Pattern.classify p with
    | some (a, s) => return ⟨c.field, .pattern a, .text s⟩
    | none => throw (.inexpressible (.pattern p c.field))
  | .member positive vs =>
    return ⟨c.field, .member positive, valueOf (.member positive) (vs.map Literal.toJson)⟩
  | .between low high =>
    return ⟨c.field, .between, valueOf .between [low.toJson, high.toJson]⟩
  | .null positive => return ⟨c.field, .null positive, .null⟩

end Criterion

namespace Conversion

variable {m : Type → Type} [Monad m] [MonadExceptOf FilterError m]

/-- The condition of a criterion. -/
def toCondition (resolve : String → m Kind) (c : Criterion) : m Condition := do
  let k ← resolve c.field
  match c.condition k with
  | .ok condition => return condition
  | .error e => throw e

/-- The group along the left spine of a predicate. -/
def toGroup (resolve : String → m Kind) : Predicate → m PartialGroup
  | .leaf c => do
    let condition ← toCondition resolve c
    return .single (.condition condition)
  | .join op left right => do
    let g ← toGroup resolve left
    match right with
    | .leaf c => do
      let condition ← toCondition resolve c
      return g.push op (.condition condition)
    | .join .. => do
      let r ← toGroup resolve right
      return g.nest op r.finish
    | .always => throw (.inexpressible .nestedAlways)
    | .negation p => throw (.inexpressible (.negation p))
    | .raw sql => throw (.inexpressible (.raw sql))
  | .always => throw (.inexpressible .nestedAlways)
  | .negation p => throw (.inexpressible (.negation p))
  | .raw sql => throw (.inexpressible (.raw sql))
termination_by structural p => p

/-- The filter of a predicate. -/
def toFilter (resolve : String → m Kind) (p : Predicate) : m Filter :=
  match p with
  | .always => pure .empty
  | p => do
    let g ← toGroup resolve p
    return g.toFilter

end Conversion

namespace Schema

/-- The filter of a predicate on an entity. -/
def recover (s : Schema) (entity : String) (p : Predicate) : Except FilterError Filter :=
  Conversion.toFilter (s.kindOf entity) p

end Schema

namespace Catalog

/-- A conversion that resolves fields through a catalog. -/
abbrev Lookup := ExceptT FilterError (StateM Catalog)

/-- The kind of a field of an entity, by the memory of the catalog if it is there. -/
def kindOf (entity field : String) : Lookup Kind := do
  match ← Catalog.resolve entity field with
  | .ok k => return k
  | .error e => throw (.resolution e)

/-- The predicate of a filter on an entity. -/
def compile (entity : String) (f : Filter) : Lookup Predicate :=
  Conversion.ofFilter (kindOf entity) f

/-- The filter of a predicate on an entity. -/
def recover (entity : String) (p : Predicate) : Lookup Filter :=
  Conversion.toFilter (kindOf entity) p

end Catalog

end RowFilter
