import RowFilter.Conversion.Backward

/-! Two runs of one conversion, each with its own way to resolve fields. A conversion resolves fields, succeeds and
    fails, one after another, and does nothing else. So a relation that goes along with success, failure and sequence
    and holds whenever a field is resolved holds of the conversions. -/

namespace RowFilter.Conversion

variable {m n : Type → Type} [Monad m] [Monad n] [MonadExceptOf FilterError m] [MonadExceptOf FilterError n]

/-- The relation goes along with success, failure and sequence. -/
structure IsLockstep (R : ∀ α : Type, m α → n α → Prop) : Prop where
  pure {α : Type} (a : α) : R _ (pure a) (pure a)
  throw {α : Type} (e : FilterError) : R _ (throw e : m α) (throw e)
  bind {α β : Type} {x : m α} {y : n α} {f : α → m β} {g : α → n β} :
    R _ x y → (∀ a, R _ (f a) (g a)) → R _ (x >>= f) (y >>= g)

namespace IsLockstep

variable {R : ∀ α : Type, m α → n α → Prop} {resolve : String → m Kind} {resolve' : String → n Kind}

theorem map [LawfulMonad m] [LawfulMonad n] (hR : IsLockstep R) {α β : Type} {x : m α} {y : n α} (h : R _ x y)
    (f : α → β) : R _ (f <$> x) (f <$> y) := by
  rw [← bind_pure_comp, ← bind_pure_comp]
  exact hR.bind h fun a => hR.pure (f a)

/-! ### From filters to predicates -/

theorem ofCondition (hR : IsLockstep R) (h : ∀ field, R _ (resolve field) (resolve' field)) (c : Condition) :
    R _ (ofCondition resolve c) (ofCondition resolve' c) := by
  refine hR.bind (h c.field) fun k => ?_
  cases c.criterion k with
  | ok criterion => exact hR.pure _
  | error e => exact hR.throw e

mutual
theorem ofGroup (hR : IsLockstep R) (h : ∀ field, R _ (resolve field) (resolve' field)) (g : Group) :
    R _ (ofGroup resolve g) (ofGroup resolve' g) := by
  match g with
  | ⟨connective, operands, joints, right⟩ =>
    rw [Conversion.ofGroup, Conversion.ofGroup]
    cases Group.fault? ⟨connective, operands, joints, right⟩ with
    | some e => exact hR.throw e
    | none =>
      refine hR.bind (ofOperands hR h operands) fun ps => ?_
      exact hR.bind (ofRightSide hR h right) fun qs => hR.pure _
termination_by structural g

theorem ofOperands (hR : IsLockstep R) (h : ∀ field, R _ (resolve field) (resolve' field)) (operands : List Operand) :
    R _ (ofOperands resolve operands) (ofOperands resolve' operands) := by
  match operands with
  | [] => exact hR.pure []
  | o :: rest =>
    rw [Conversion.ofOperands, Conversion.ofOperands]
    refine hR.bind (ofOperand hR h o) fun p => ?_
    exact hR.bind (ofOperands hR h rest) fun ps => hR.pure _
termination_by structural operands

theorem ofOperand (hR : IsLockstep R) (h : ∀ field, R _ (resolve field) (resolve' field)) (o : Operand) :
    R _ (ofOperand resolve o) (ofOperand resolve' o) := by
  match o with
  | .condition c => exact ofCondition hR h c
  | .group g => exact ofGroup hR h g
termination_by structural o

theorem ofRightSide (hR : IsLockstep R) (h : ∀ field, R _ (resolve field) (resolve' field)) (right : Option Group) :
    R _ (ofRightSide resolve right) (ofRightSide resolve' right) := by
  match right with
  | none => exact hR.pure []
  | some g =>
    rw [Conversion.ofRightSide, Conversion.ofRightSide]
    exact hR.bind (ofGroup hR h g) fun p => hR.pure _
termination_by structural right
end

theorem ofConditions (hR : IsLockstep R) (h : ∀ field, R _ (resolve field) (resolve' field)) (cs : List Condition) :
    R _ (ofConditions resolve cs) (ofConditions resolve' cs) := by
  induction cs with
  | nil => exact hR.pure []
  | cons c cs ih =>
    rw [Conversion.ofConditions, Conversion.ofConditions]
    exact hR.bind (hR.ofCondition h c) fun p => hR.bind ih fun ps => hR.pure _

theorem ofFilter [LawfulMonad m] [LawfulMonad n] (hR : IsLockstep R)
    (h : ∀ field, R _ (resolve field) (resolve' field)) (f : Filter) :
    R _ (ofFilter resolve f) (ofFilter resolve' f) := by
  cases f with
  | empty => exact hR.pure _
  | simple cs => exact hR.map (hR.ofConditions h cs) _
  | complex g => exact hR.ofGroup h g

/-! ### From predicates to filters -/

theorem toCondition (hR : IsLockstep R) (h : ∀ field, R _ (resolve field) (resolve' field)) (c : Criterion) :
    R _ (toCondition resolve c) (toCondition resolve' c) := by
  refine hR.bind (h c.field) fun k => ?_
  cases c.condition k with
  | ok condition => exact hR.pure _
  | error e => exact hR.throw e

theorem toGroup (hR : IsLockstep R) (h : ∀ field, R _ (resolve field) (resolve' field)) (p : Predicate) :
    R _ (toGroup resolve p) (toGroup resolve' p) := by
  induction p with
  | leaf c =>
    rw [Conversion.toGroup, Conversion.toGroup]
    exact hR.bind (hR.toCondition h c) fun condition => hR.pure _
  | join op left right ihl ihr =>
    rw [Conversion.toGroup, Conversion.toGroup]
    refine hR.bind ihl fun g => ?_
    cases right with
    | leaf c => exact hR.bind (hR.toCondition h c) fun condition => hR.pure _
    | join => exact hR.bind ihr fun r => hR.pure _
    | _ => exact hR.throw _
  | _ => exact hR.throw _

theorem toFilter (hR : IsLockstep R) (h : ∀ field, R _ (resolve field) (resolve' field)) (p : Predicate) :
    R _ (toFilter resolve p) (toFilter resolve' p) := by
  cases p with
  | always => exact hR.pure _
  | _ => exact hR.bind (hR.toGroup h _) fun g => hR.pure _

end IsLockstep

end RowFilter.Conversion
