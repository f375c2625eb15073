import RowFilter.Proofs.Conversion.Compiled
import RowFilter.Proofs.Conversion.Criterion

/-! The exact outcome of the forward conversion. All faults of a filter are listed in the order in which it is
    checked: a group's own before those of its operands, these from left to right, and those of its right side
    last. The conversion fails with the first of them, and if there is none its result is the left fold of the
    operands of each group by the connectives between them. -/

namespace RowFilter

open Success Conversion

/-! ### The first fault -/

/-- The result, unless there are faults: the first of them then. -/
def settle {ε α : Type} (faults : List ε) (a : α) : Except ε α :=
  match faults with
  | [] => .ok a
  | e :: _ => .error e

section
variable {ε α β : Type}

theorem settle_eq_ok_iff {faults : List ε} {a b : α} : settle faults a = .ok b ↔ faults = [] ∧ b = a := by
  cases faults <;> simp [settle, eq_comm]

theorem settle_eq_error_iff {faults : List ε} {a : α} {e : ε} :
    settle faults a = .error e ↔ faults.head? = some e := by
  cases faults <;> simp [settle]

/-- The faults of what comes next stand behind those of what comes first. -/
theorem settle_bind {faults more : List ε} {a : α} {b : β} {f : α → Except ε β} (h : f a = settle more b) :
    (settle faults a >>= f) = settle (faults ++ more) b := by
  cases faults with
  | nil => exact h
  | cons e faults => rfl

theorem settle_bind_pure (faults : List ε) (a : α) (f : α → β) :
    (settle faults a >>= fun a => pure (f a)) = settle faults (f a) := by
  cases faults <;> rfl

end

/-! ### Faults -/

namespace Condition

/-- The faults of a condition on a field of a kind: of the number of its values, of its operator on the kind, and
    of its values in order. -/
def kindFaults (c : Condition) (k : Kind) : List FilterError :=
  (if c.operator.arity.accepts c.values.length then [] else [.arity c.operator c.values.length]) ++
    ((if (c.operator.isPattern && k != .text) || (c.operator.isRange && !k.isOrdered) then
        [.operatorKind c.operator c.field k] else []) ++
      (c.values.filter fun j => (k.coerce j).isNone).map (.coercion c.field k))

/-- The faults of a condition, that its field has no kind first. -/
def faults (resolve : String → Except FilterError Kind) (c : Condition) : List FilterError :=
  match resolve c.field with
  | .error e => [e]
  | .ok k => c.kindFaults k

end Condition

namespace Group

/-- The faults of a group as such: that it has no operands, and a wrong number of connectives. -/
def ownFaults (g : Group) : List FilterError :=
  (if g.operands.isEmpty then [.emptyGroup] else []) ++
    match g.joints with
    | none => []
    | some cs =>
      if cs.length = g.jointCount then [] else [.jointCount g.jointCount g.operands.length cs.length]

theorem head?_ownFaults (g : Group) : g.ownFaults.head? = g.fault? := by
  unfold ownFaults fault?
  cases g.operands.isEmpty with
  | true => rfl
  | false =>
    rcases g.joints with _ | cs
    · rfl
    · by_cases hlength : cs.length = g.jointCount <;> simp [hlength]

end Group

section
variable {α : Type} (atGroup : Group → List α) (atCondition : Condition → List α)

mutual
/-- What groups and conditions contribute: a group, its operands from left to right, and its right side. -/
def Group.gather (g : Group) : List α :=
  match g with
  | ⟨connective, operands, joints, right⟩ =>
    atGroup ⟨connective, operands, joints, right⟩ ++ (Group.gatherOperands operands ++ Group.gatherRight right)
termination_by structural g

def Group.gatherOperands (operands : List Operand) : List α :=
  match operands with
  | [] => []
  | o :: rest => Operand.gather o ++ Group.gatherOperands rest
termination_by structural operands

def Operand.gather (o : Operand) : List α :=
  match o with
  | .condition c => atCondition c
  | .group g => Group.gather g
termination_by structural o

def Group.gatherRight (right : Option Group) : List α :=
  match right with
  | none => []
  | some g => Group.gather g
termination_by structural right
end

end

namespace Filter

/-- The groups of a filter, each before the groups in it. -/
def groups : Filter → List Group
  | complex g => g.gather (fun h => [h]) (fun _ => [])
  | _ => []

/-- The faults of a filter, in the order in which it is checked. -/
def faults (resolve : String → Except FilterError Kind) : Filter → List FilterError
  | empty => []
  | simple conditions => conditions.flatMap (Condition.faults resolve)
  | complex g => g.gather Group.ownFaults (Condition.faults resolve)

end Filter

/-! ### Trees -/

/-- The predicates joined one by one, from the left, by the connectives that stand between them. -/
def Predicate.leftFold (cs : List Connective) : List Predicate → Predicate
  | [] => .always
  | p :: ps => (cs.zip ps).foldl (fun q next => .join next.1 q next.2) p

/-- The connectives between the operands of a group, the one before its right side last. -/
def Group.connectives (g : Group) : List Connective :=
  g.joints.getD (List.replicate g.jointCount g.connective)

section
variable (leaf : Condition → Criterion)

mutual
/-- The left fold of the operands of a group, its right side last. -/
def Group.tree (g : Group) : Predicate :=
  match g with
  | ⟨connective, operands, joints, right⟩ =>
    .leftFold (Group.connectives ⟨connective, operands, joints, right⟩)
      (Group.operandTrees operands ++ Group.rightTrees right)
termination_by structural g

def Group.operandTrees (operands : List Operand) : List Predicate :=
  match operands with
  | [] => []
  | o :: rest => Operand.tree o :: Group.operandTrees rest
termination_by structural operands

def Operand.tree (o : Operand) : Predicate :=
  match o with
  | .condition c => .leaf (leaf c)
  | .group g => Group.tree g
termination_by structural o

def Group.rightTrees (right : Option Group) : List Predicate :=
  match right with
  | none => []
  | some g => [Group.tree g]
termination_by structural right
end

/-- The tree of a filter, "and" between the conditions of a list. -/
def Filter.tree : Filter → Predicate
  | empty => .always
  | simple conditions =>
    .leftFold (List.replicate (conditions.length - 1) .and) (conditions.map fun c => .leaf (leaf c))
  | complex g => g.tree leaf

end

/-! ### Conditions -/

theorem Operator.exists_test? {o : Operator} {vs : List Literal} (h : o.arity.accepts vs.length = true) :
    ∃ t, o.test? vs = some t := by
  cases o with
  | compare c =>
    obtain ⟨v, rfl⟩ := List.length_eq_one_iff.mp (beq_iff_eq.mp h)
    exact ⟨_, rfl⟩
  | pattern a =>
    obtain ⟨v, rfl⟩ := List.length_eq_one_iff.mp (beq_iff_eq.mp h)
    exact ⟨_, rfl⟩
  | member positive => exact ⟨_, rfl⟩
  | between =>
    rcases vs with _ | ⟨v, _ | ⟨w, _ | ⟨u, vs⟩⟩⟩
    · cases h
    · cases h
    · exact ⟨_, rfl⟩
    · simp [arity, Arity.accepts] at h
  | null positive =>
    obtain rfl := List.length_eq_zero_iff.mp (beq_iff_eq.mp h)
    exact ⟨_, rfl⟩

namespace Condition

theorem literals_eq_settle (field : String) (k : Kind) (js : List Json) : literals field k js =
    settle ((js.filter fun j => (k.coerce j).isNone).map (.coercion field k)) (js.filterMap k.coerce) := by
  induction js with
  | nil => rfl
  | cons j js ih =>
    rw [literals]
    cases hj : k.coerce j with
    | none => simp [hj, settle]
    | some v =>
      simp only [ih, List.filter_cons, hj, Option.isNone_some, Bool.false_eq_true, if_false, List.filterMap_cons]
      cases (js.filter fun j => (k.coerce j).isNone).map (FilterError.coercion field k) <;> rfl

theorem appliesTo_eq (o : Operator) (k : Kind) :
    ((o.isPattern && k != .text) || (o.isRange && !k.isOrdered)) = !o.appliesTo k := by
  rw [Operator.appliesTo, Bool.not_and, Bool.not_not, Bool.not_not]

/-- A condition on a field of a kind has no criterion exactly if it has faults, the first of which is told. -/
theorem criterion_eq_error_iff {c : Condition} {k : Kind} {e : FilterError} :
    c.criterion k = .error e ↔ (c.kindFaults k).head? = some e := by
  rw [kindFaults, appliesTo_eq]
  cases haccepts : c.operator.arity.accepts c.values.length with
  | false =>
    have hthrow : c.criterion k = .error (.arity c.operator c.values.length) := by
      simp only [criterion, haccepts, Bool.false_eq_true, if_false]
      rfl
    simp [hthrow]
  | true =>
    cases happlies : c.operator.appliesTo k with
    | false =>
      have hthrow : c.criterion k = .error (.operatorKind c.operator c.field k) := by
        simp only [criterion, haccepts, happlies, Bool.false_eq_true, if_true, if_false]
        rfl
      simp [hthrow]
    | true =>
      have hliterals := literals_eq_settle c.field k c.values
      cases hfaults : c.values.filter fun j => (k.coerce j).isNone with
      | nil =>
        rw [hfaults] at hliterals
        have hcoerce := literals_eq_ok_iff.mp hliterals
        have hlength : c.values.length = (c.values.filterMap k.coerce).length := by
          simpa using congrArg List.length hcoerce
        obtain ⟨t, ht⟩ := Operator.exists_test? (hlength ▸ haccepts)
        have hok : c.criterion k = .ok ⟨c.field, k, t⟩ :=
          criterion_eq_ok_iff.mpr ⟨haccepts, happlies, _, t, hcoerce, ht, rfl⟩
        simp [hok]
      | cons j js =>
        have hthrow : c.criterion k = .error (.coercion c.field k j) := by
          simp only [criterion, haccepts, happlies, if_true, hliterals, hfaults]
          rfl
        simp [hthrow]

end Condition

namespace Conversion

variable {r : String → Except FilterError Kind}

/-- The criterion of a condition, a default one if it has none. -/
def leafOf (r : String → Except FilterError Kind) (c : Condition) : Criterion :=
  match criterionOf r c with
  | .ok d => d
  | .error _ => default

theorem criterionOf_eq_settle (c : Condition) : criterionOf r c = settle (c.faults r) (leafOf r c) := by
  have herror : ∀ e, criterionOf r c = .error e ↔ (c.faults r).head? = some e := by
    intro e
    unfold criterionOf Condition.faults
    cases r c.field with
    | error e' => exact ⟨fun h => by cases h; rfl, fun h => by cases h; rfl⟩
    | ok k => exact Condition.criterion_eq_error_iff
  unfold leafOf
  cases hc : criterionOf r c with
  | error e => exact (settle_eq_error_iff.mpr ((herror e).mp hc)).symm
  | ok d =>
    cases hfaults : c.faults r with
    | nil => rfl
    | cons e es =>
      have he := (herror e).mpr (by rw [hfaults]; rfl)
      rw [hc] at he
      cases he

theorem ofCondition_eq_settle (c : Condition) : ofCondition r c = settle (c.faults r) (.leaf (leafOf r c)) := by
  rw [ofCondition_eq_map, criterionOf_eq_settle]
  cases c.faults r <;> rfl

theorem ofConditions_eq_settle (cs : List Condition) :
    ofConditions r cs = settle (cs.flatMap (Condition.faults r)) (cs.map fun c => .leaf (leafOf r c)) := by
  induction cs with
  | nil => rfl
  | cons c cs ih =>
    rw [ofConditions, ofCondition_eq_settle, List.flatMap_cons]
    refine settle_bind ?_
    rw [ih]
    exact settle_bind_pure _ _ _

end Conversion

/-! ### Groups -/

namespace Predicate

theorem chainFrom_eq_foldl {joins : Nat → Connective} {i : Nat} {cs : List Connective} {ps : List Predicate}
    (hlength : ps.length = cs.length) (hjoins : ∀ j c, cs[j]? = some c → joins (i + j) = c) (p : Predicate) :
    chainFrom joins i p ps = (cs.zip ps).foldl (fun q next => .join next.1 q next.2) p := by
  induction ps generalizing i cs p with
  | nil => rw [List.zip_nil_right, chainFrom, List.foldl_nil]
  | cons q ps ih =>
    obtain ⟨c, cs, rfl⟩ := List.exists_cons_of_length_eq_add_one hlength.symm
    have hfirst : joins i = c := hjoins 0 c rfl
    have hrest : ∀ j d, cs[j]? = some d → joins (i + 1 + j) = d := by
      intro j d hd
      have hshift : i + 1 + j = i + (j + 1) := by omega
      rw [hshift]
      exact hjoins (j + 1) d hd
    rw [chainFrom, List.zip_cons_cons, List.foldl_cons, hfirst, ih (Nat.succ.inj hlength) hrest]

/-- A chain is the left fold by the connectives that are at its joints. -/
theorem chain_eq_leftFold {joins : Nat → Connective} {cs : List Connective} {ps : List Predicate}
    (hlength : ps.length = cs.length + 1) (hjoins : ∀ j c, cs[j]? = some c → joins j = c) :
    chain joins ps = leftFold cs ps := by
  obtain ⟨p, ps, rfl⟩ := List.exists_cons_of_length_eq_add_one hlength
  refine chainFrom_eq_foldl (Nat.succ.inj hlength) (fun j c hc => ?_) p
  rw [Nat.zero_add]
  exact hjoins j c hc

end Predicate

namespace Group

theorem connectiveAt_of_connectives (g : Group) (j : Nat) (c : Connective) (h : g.connectives[j]? = some c) :
    g.connectiveAt j = c := by
  unfold connectives at h
  unfold connectiveAt
  rcases hjoints : g.joints with _ | cs
  · rw [hjoints, Option.getD_none, List.getElem?_replicate] at h
    split at h
    · exact Option.some.inj h
    · cases h
  · rw [hjoints, Option.getD_some] at h
    simp only [h, Option.getD_some]

theorem fault?_eq_none_iff {g : Group} : g.fault? = none ↔
    g.operands ≠ [] ∧ ∀ cs, g.joints = some cs → cs.length = g.jointCount := by
  unfold fault?
  rcases g.operands with _ | ⟨o, os⟩
  · simp
  · rcases g.joints with _ | cs
    · simp
    · by_cases hlength : cs.length = g.jointCount <;> simp [hlength]

theorem length_connectives {g : Group} (h : g.fault? = none) : g.connectives.length = g.jointCount := by
  obtain ⟨-, hjoints⟩ := fault?_eq_none_iff.mp h
  unfold connectives
  rcases hg : g.joints with _ | cs
  · rw [Option.getD_none, List.length_replicate]
  · exact hjoints cs hg

theorem jointCount_add_one {g : Group} (h : g.operands ≠ []) :
    g.jointCount + 1 = g.operands.length + (if g.rightSide.isSome then 1 else 0) := by
  have hpos : 0 < g.operands.length := List.length_pos_iff.mpr h
  unfold jointCount
  omega

end Group

namespace Conversion

variable {r : String → Except FilterError Kind}

theorem length_operandTrees (leaf : Condition → Criterion) (os : List Operand) :
    (Group.operandTrees leaf os).length = os.length := by
  induction os with
  | nil => rfl
  | cons o os ih => rw [Group.operandTrees, List.length_cons, ih, List.length_cons]

theorem length_rightTrees (leaf : Condition → Criterion) (right : Option Group) :
    (Group.rightTrees leaf right).length = if right.isSome then 1 else 0 := by
  cases right <;> rfl

mutual
/-- The conversion of a group is settled by its faults and its tree. -/
theorem ofGroup_eq_settle (g : Group) : ofGroup r g =
    settle (g.gather Group.ownFaults (Condition.faults r)) (g.tree (leafOf r)) := by
  match g with
  | ⟨connective, operands, joints, right⟩ =>
    rw [ofGroup, Group.gather, Group.tree]
    have hhead := Group.head?_ownFaults ⟨connective, operands, joints, right⟩
    cases hfault : Group.fault? ⟨connective, operands, joints, right⟩ with
    | some e =>
      rw [hfault] at hhead
      obtain ⟨es, hes⟩ := List.head?_eq_some_iff.mp hhead
      rw [hes]
      rfl
    | none =>
      rw [hfault, List.head?_eq_none_iff] at hhead
      rw [hhead, List.nil_append, ofOperands_eq_settle operands]
      refine settle_bind ?_
      rw [ofRightSide_eq_settle right]
      refine (settle_bind_pure _ _ _).trans (congrArg _ ?_)
      have hlength := Group.jointCount_add_one (Group.fault?_eq_none_iff.mp hfault).1
      refine Predicate.chain_eq_leftFold ?_ (Group.connectiveAt_of_connectives _)
      rw [Group.length_connectives hfault, hlength, List.length_append, length_operandTrees, length_rightTrees]
termination_by structural g

theorem ofOperands_eq_settle (os : List Operand) : ofOperands r os =
    settle (Group.gatherOperands Group.ownFaults (Condition.faults r) os) (Group.operandTrees (leafOf r) os) := by
  match os with
  | [] => rfl
  | o :: rest =>
    rw [ofOperands, Group.gatherOperands, Group.operandTrees, ofOperand_eq_settle o]
    refine settle_bind ?_
    rw [ofOperands_eq_settle rest]
    exact settle_bind_pure _ _ _
termination_by structural os

theorem ofOperand_eq_settle (o : Operand) : ofOperand r o =
    settle (o.gather Group.ownFaults (Condition.faults r)) (o.tree (leafOf r)) := by
  match o with
  | .condition c => exact ofCondition_eq_settle c
  | .group g => exact ofGroup_eq_settle g
termination_by structural o

theorem ofRightSide_eq_settle (right : Option Group) : ofRightSide r right =
    settle (Group.gatherRight Group.ownFaults (Condition.faults r) right) (Group.rightTrees (leafOf r) right) := by
  match right with
  | none => rfl
  | some g =>
    rw [ofRightSide, Group.gatherRight, Group.rightTrees, ofGroup_eq_settle g]
    exact settle_bind_pure _ _ _
termination_by structural right
end

theorem ofFilter_eq_settle (f : Filter) : ofFilter r f = settle (f.faults r) (f.tree (leafOf r)) := by
  cases f with
  | empty => rfl
  | simple cs =>
    have hfold : Predicate.conjunction (cs.map fun c => .leaf (leafOf r c)) = (Filter.simple cs).tree (leafOf r) := by
      cases cs with
      | nil => rfl
      | cons c cs =>
        refine Predicate.chain_eq_leftFold (by simp) fun j d hd => ?_
        rw [List.getElem?_replicate] at hd
        split at hd
        · exact Option.some.inj hd
        · cases hd
    rw [ofFilter, ofConditions_eq_settle, ← hfold, Filter.faults]
    cases cs.flatMap (Condition.faults r) <;> rfl
  | complex g => exact ofGroup_eq_settle g

end Conversion

/-! ### Filters without faults -/

section
variable {α : Type} (a : Group → List α) (b : Condition → List α)

mutual
theorem Group.gather_eq_nil_iff (g : Group) : g.gather a b = [] ↔
    (∀ h ∈ g.gather (fun h => [h]) (fun _ => []), a h = []) ∧ ∀ c ∈ g.conditions, b c = [] := by
  match g with
  | ⟨connective, operands, joints, right⟩ =>
    have hoperands := Group.gatherOperands_eq_nil_iff operands
    have hright := Group.gatherRight_eq_nil_iff right
    simp only [Group.gather, Group.conditions, List.append_eq_nil_iff, hoperands, hright, List.singleton_append,
      List.forall_mem_cons, List.forall_mem_append]
    constructor
    · rintro ⟨hown, ⟨hg, hc⟩, hg', hc'⟩
      exact ⟨⟨hown, hg, hg'⟩, hc, hc'⟩
    · rintro ⟨⟨hown, hg, hg'⟩, hc, hc'⟩
      exact ⟨hown, ⟨hg, hc⟩, hg', hc'⟩
termination_by structural g

theorem Group.gatherOperands_eq_nil_iff (os : List Operand) : Group.gatherOperands a b os = [] ↔
    (∀ h ∈ Group.gatherOperands (fun h => [h]) (fun _ => []) os, a h = []) ∧
      ∀ c ∈ Group.operandConditions os, b c = [] := by
  match os with
  | [] => exact ⟨fun _ => ⟨nofun, nofun⟩, fun _ => rfl⟩
  | o :: rest =>
    have hoperand := Operand.gather_eq_nil_iff o
    have hrest := Group.gatherOperands_eq_nil_iff rest
    simp only [Group.gatherOperands, Group.operandConditions, List.append_eq_nil_iff, hoperand, hrest,
      List.forall_mem_append]
    exact and_and_and_comm
termination_by structural os

theorem Operand.gather_eq_nil_iff (o : Operand) : o.gather a b = [] ↔
    (∀ h ∈ o.gather (fun h => [h]) (fun _ => []), a h = []) ∧ ∀ c ∈ o.conditions, b c = [] := by
  match o with
  | .condition c =>
    constructor
    · intro h
      exact ⟨nofun, List.forall_mem_singleton.mpr h⟩
    · intro h
      exact h.2 c (List.mem_singleton_self c)
  | .group g => exact Group.gather_eq_nil_iff g
termination_by structural o

theorem Group.gatherRight_eq_nil_iff (right : Option Group) : Group.gatherRight a b right = [] ↔
    (∀ h ∈ Group.gatherRight (fun h => [h]) (fun _ => []) right, a h = []) ∧
      ∀ c ∈ Group.rightConditions right, b c = [] := by
  match right with
  | none => exact ⟨fun _ => ⟨nofun, nofun⟩, fun _ => rfl⟩
  | some g => exact Group.gather_eq_nil_iff g
termination_by structural right
end

end

theorem Filter.faults_eq_nil_iff {r : String → Except FilterError Kind} {f : Filter} : f.faults r = [] ↔
    (∀ g ∈ f.groups, g.ownFaults = []) ∧ ∀ c ∈ f.conditions, c.faults r = [] := by
  cases f with
  | empty => exact ⟨fun _ => ⟨nofun, nofun⟩, fun _ => rfl⟩
  | simple cs => exact List.flatMap_eq_nil_iff.trans ⟨fun h => ⟨nofun, h⟩, fun h => h.2⟩
  | complex g => exact Group.gather_eq_nil_iff _ _ g

/-! ### The outcome -/

/-- The group has operands, and if it lists connectives, one of them between any two of its operands and one
    before its right side. -/
def Group.IsAligned (g : Group) : Prop :=
  g.operands ≠ [] ∧
    ∀ cs, g.joints = some cs → cs.length + 1 = g.operands.length + (if g.rightSide.isSome then 1 else 0)

/-- The field of the condition has a kind, its operator takes as many values as there are and means something for
    the kind, and every value is one of the kind. -/
def Condition.IsSound (resolve : String → Except ResolutionError Kind) (c : Condition) : Prop :=
  ∃ k, resolve c.field = .ok k ∧ c.operator.arity.accepts c.values.length = true ∧
    (c.operator.isPattern = true → k = .text) ∧ (c.operator.isRange = true → k.isOrdered = true) ∧
    ∀ j ∈ c.values, ∃ v, k.coerce j = some v

theorem Group.ownFaults_eq_nil_iff {g : Group} : g.ownFaults = [] ↔ g.IsAligned := by
  rw [← List.head?_eq_none_iff, head?_ownFaults, fault?_eq_none_iff]
  refine and_congr_right fun hne => forall_congr' fun cs => imp_congr_right fun _ => ?_
  have hcount := jointCount_add_one hne
  omega

theorem Condition.kindFaults_eq_nil_iff {c : Condition} {k : Kind} : c.kindFaults k = [] ↔
    c.operator.arity.accepts c.values.length = true ∧
      (c.operator.isPattern = true → k = .text) ∧ (c.operator.isRange = true → k.isOrdered = true) ∧
      ∀ j ∈ c.values, ∃ v, k.coerce j = some v := by
  have hvalue : ∀ j, ¬k.coerce j = none ↔ ∃ v, k.coerce j = some v := fun j => Option.ne_none_iff_exists'
  rw [kindFaults, appliesTo_eq, List.append_eq_nil_iff, List.append_eq_nil_iff, List.map_eq_nil_iff,
    List.filter_eq_nil_iff, ← and_assoc (a := _ → _), ← Operator.appliesTo_iff]
  simp [hvalue]

theorem Schema.kindOf_eq_ok_iff {s : Schema} {entity field : String} {k : Kind} :
    s.kindOf entity field = .ok k ↔ s.resolve entity field = .ok k := by
  unfold kindOf
  cases s.resolve entity field <;> simp

theorem Condition.faults_eq_nil_iff {s : Schema} {entity : String} {c : Condition} :
    c.faults (s.kindOf entity) = [] ↔ c.IsSound (s.resolve entity) := by
  unfold faults IsSound
  cases hkind : s.kindOf entity c.field with
  | error e =>
    refine ⟨nofun, fun h => ?_⟩
    obtain ⟨k, hk, -⟩ := h
    rw [Schema.kindOf_eq_ok_iff.mpr hk] at hkind
    cases hkind
  | ok k =>
    have hresolve := Schema.kindOf_eq_ok_iff.mp hkind
    refine kindFaults_eq_nil_iff.trans ⟨fun h => ⟨k, hresolve, h⟩, fun h => ?_⟩
    obtain ⟨k', hk', h⟩ := h
    rw [hresolve] at hk'
    cases hk'
    exact h

theorem Conversion.criterionOf_leafOf {r : String → Except FilterError Kind} {c : Condition}
    (h : c.faults r = []) : criterionOf r c = .ok (leafOf r c) := by
  rw [criterionOf_eq_settle, h]
  rfl

/-- A filter compiles exactly if all its groups are aligned and all its conditions sound, to the left folds of its
    groups with a leaf for every condition; the error is the first of its faults. -/
theorem Schema.compile_outcome (s : Schema) (entity : String) (f : Filter) :
    ((∃ p, s.compile entity f = .ok p) ↔
      (∀ g ∈ f.groups, g.IsAligned) ∧ ∀ c ∈ f.conditions, c.IsSound (s.resolve entity)) ∧
    (∀ p, s.compile entity f = .ok p → ∃ leaf : Condition → Criterion,
      p = f.tree leaf ∧ p.criteria = f.conditions.map leaf ∧
      ∀ c ∈ f.conditions, ∃ k vs t, s.resolve entity c.field = .ok k ∧ c.values.map k.coerce = vs.map some ∧
        c.operator.test? vs = some t ∧ leaf c = ⟨c.field, k, t⟩) ∧
    ∀ e, s.compile entity f = .error e ↔ (f.faults (s.kindOf entity)).head? = some e := by
  have hsettle : s.compile entity f = settle (f.faults (s.kindOf entity)) (f.tree (leafOf (s.kindOf entity))) :=
    ofFilter_eq_settle f
  refine ⟨?_, fun p hp => ?_, fun e => ?_⟩
  · simp only [hsettle, settle_eq_ok_iff, exists_and_left, exists_eq, and_true, Filter.faults_eq_nil_iff,
      Group.ownFaults_eq_nil_iff, Condition.faults_eq_nil_iff]
  · obtain ⟨hfaults, rfl⟩ := settle_eq_ok_iff.mp (hsettle.symm.trans hp)
    have hleaf : ∀ c ∈ f.conditions, criterionOf (s.kindOf entity) c = .ok (leafOf (s.kindOf entity) c) :=
      fun c hc => criterionOf_leafOf ((Filter.faults_eq_nil_iff.mp hfaults).2 c hc)
    refine ⟨leafOf (s.kindOf entity), rfl, ?_, fun c hc => ?_⟩
    · have hcriteria := (criteria_of_ofFilter hp).2
      rw [mapM_eq_ok_map hleaf] at hcriteria
      exact (Except.ok.inj hcriteria).symm
    · obtain ⟨k, hk, hcriterion⟩ := bind_eq_ok_iff.mp (hleaf c hc)
      obtain ⟨-, -, vs, t, hvs, ht, hleaf⟩ := Condition.criterion_eq_ok_iff.mp hcriterion
      exact ⟨k, vs, t, kindOf_eq_ok_iff.mp hk, hvs, ht, hleaf⟩
  · rw [hsettle, settle_eq_error_iff]

/-- A nested group and a right side, a connective before each; then a list of connectives that is too short, before
    a nested group without operands and a field that is not there. -/
theorem Schema.compile_outcome_nested :
    let s : Schema := ⟨[("user", [("age", .value .integer), ("name", .value .text)])]⟩
    let f : Filter := .complex ⟨.and, [.condition ⟨"age", .compare .gt, .text "60"⟩,
      .group (.uniform .or [.condition ⟨"name", .null false, .null⟩])],
      some [.or, .and], some (.uniform .or [.condition ⟨"age", .compare .lt, .text "90"⟩])⟩
    let faulty : Filter := .complex ⟨.and, [.group (.uniform .or []), .condition ⟨"nam", .null true, .null⟩],
      some [], none⟩
    (∃ leaf : Condition → Criterion, s.compile "user" f = .ok (.join .and
      (.join .or (.leaf (leaf ⟨"age", .compare .gt, .text "60"⟩)) (.leaf (leaf ⟨"name", .null false, .null⟩)))
      (.leaf (leaf ⟨"age", .compare .lt, .text "90"⟩)))) ∧
      faulty.faults (s.kindOf "user") = [.jointCount 1 2 0, .emptyGroup,
        .resolution (.field "user" "nam" (some "name"))] ∧
      s.compile "user" faulty = .error (.jointCount 1 2 0) := by
  intro s f faulty
  obtain ⟨p, hp⟩ : ∃ p, s.compile "user" f = .ok p := ⟨_, rfl⟩
  obtain ⟨leaf, htree, -, -⟩ := (compile_outcome s "user" f).2.1 p hp
  have hfaults : faulty.faults (s.kindOf "user") = [.jointCount 1 2 0, .emptyGroup,
      .resolution (.field "user" "nam" (some "name"))] := by
    rfl
  refine ⟨⟨leaf, hp.trans (congrArg Except.ok htree)⟩, hfaults, ?_⟩
  exact ((compile_outcome s "user" faulty).2.2 _).mpr (congrArg List.head? hfaults)

end RowFilter
