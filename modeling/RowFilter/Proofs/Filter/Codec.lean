import RowFilter.Filter.Reading
import RowFilter.Filter.Encoding
import RowFilter.Proofs.Filter.Conditions
import RowFilter.Proofs.Keyed
import RowFilter.Proofs.Success

/-! A filter is decoded from its own JSON form, in either order of reading, if the values of its
    conditions have their members in order. -/

namespace RowFilter

open Success Keyed

theorem Operator.ofText?_name (o : Operator) : ofText? o.name = some o := by
  cases o with
  | compare c => cases c <;> rfl
  | pattern a => cases a <;> rfl
  | member positive => cases positive <;> rfl
  | between => rfl
  | null positive => cases positive <;> rfl

theorem Connective.ofText?_name (c : Connective) : ofText? c.name = some c := by
  cases c <;> rfl

namespace Decoding

theorem operator_name (o : Operator) : operator (.text o.name) = .ok o := by
  simp only [operator, string, ok_bind, Operator.ofText?_name]

theorem connective_name (c : Connective) : connective (.text c.name) = .ok c := by
  simp only [connective, string, ok_bind, Connective.ofText?_name]

theorem mapM_connective_name (cs : List Connective) :
    (cs.map fun c => Json.text c.name).mapM connective = .ok cs := by
  induction cs with
  | nil => rfl
  | cons c cs ih =>
    rw [List.map_cons, List.mapM_cons, connective_name, ih]
    rfl

/-! ### Conditions -/

theorem condition_toJson (order : MemberOrder) {c : Condition} (h : c.value.IsCanonical) :
    condition order c.toJson = .ok c := by
  obtain ⟨field, o, value⟩ := c
  have hname := operator_name o
  have hvalue : value.canonical = value := h
  have hthree : ∀ {α : Type} (f o v : α), order.arrange [("field", f), ("operator", o), ("value", v)] =
      [("field", f), ("operator", o), ("value", v)] := by
    intro α f o v
    cases order with
    | written => rfl
    | sorted => simp (disch := decide) only [MemberOrder.arrange, Keyed.sorted, List.foldl, insert_nil, insert_of_gt]
  have htwo : ∀ {α : Type} (f o : α), order.arrange [("field", f), ("operator", o)] =
      [("field", f), ("operator", o)] := by
    intro α f o
    cases order with
    | written => rfl
    | sorted => simp (disch := decide) only [MemberOrder.arrange, Keyed.sorted, List.foldl, insert_nil, insert_of_gt]
  by_cases hnull : value = .null
  · subst hnull
    simp [Condition.toJson, Condition.members, condition, gather, htwo, conditionPart, collect, string, hname,
      assembleCondition, ok_bind]
  · simp [Condition.toJson, Condition.members, condition, gather, hthree, conditionPart, collect, string, hname,
      assembleCondition, hnull, hvalue, ok_bind]

theorem mapM_condition_toJson (order : MemberOrder) {cs : List Condition} (h : ∀ c ∈ cs, c.value.IsCanonical) :
    (cs.map Condition.toJson).mapM (condition order) = .ok cs := by
  induction cs with
  | nil => rfl
  | cons c cs ih =>
    obtain ⟨hc, hcs⟩ := List.forall_mem_cons.mp h
    rw [List.map_cons, List.mapM_cons, condition_toJson order hc, ih hcs]
    rfl

/-! ### Groups -/

/-- A group is decoded from its members if its operands and its right side are. -/
theorem group_of_members (order : MemberOrder) {c : Connective} {os : List Operand} {js : Option (List Connective)}
    {right : Option Group} (hos : operandList (Operand.toJsons os) = .ok os)
    (hright : ∀ g, right = some g → rightSide order g.toJson = .ok (some g)) :
    group order (Group.toJson ⟨c, os, js, right⟩) = .ok ⟨c, os, js, right⟩ := by
  have hoperator : groupPart order ("operator", .text c.name) =
      ("operator", some ("operator", .ok (.connective c))) := by
    rw [groupPart, connective_name]
    rfl
  have hoperations : groupPart order ("operations", .array (Operand.toJsons os)) =
      ("operations", some ("operations", .ok (.operands os))) := by
    rw [groupPart, operands, hos]
    rfl
  have hjoints : ∀ cs : List Connective,
      groupPart order ("nonPriorityGroupOperators", .array (cs.map fun c => .text c.name)) =
        ("nonPriorityGroupOperators", some ("nonPriorityGroupOperators", .ok (.joints (some cs)))) := by
    intro cs
    rw [groupPart, joints, mapM_connective_name]
    rfl
  have hrightSide : ∀ g, right = some g → groupPart order ("rightSideOperands", g.toJson) =
      ("rightSideOperands", some ("rightSideOperands", .ok (.rightSide (some g)))) := by
    intro g hg
    rw [groupPart, hright g hg]
    rfl
  -- The members are four at most, and are read in the order of the text or of their names.
  cases js <;> cases right <;> cases order <;>
    simp (disch := first | decide | rfl) only [Group.toJson, Group.rightMembers, List.cons_append, List.nil_append,
      List.append_nil, group, groupOfParts, groupParts, hoperator, hoperations, hjoints, hrightSide, gather,
      MemberOrder.arrange, Keyed.sorted, List.foldl, insert_nil, insert_of_lt, insert_of_gt] <;>
    rfl

theorem exists_toJson_eq (g : Group) : ∃ members, g.toJson = .object (("operator", .text g.connective.name) ::
    ("operations", .array (Operand.toJsons g.operands)) :: members) := by
  obtain ⟨c, os, js, right⟩ := g
  exact ⟨_, rfl⟩

theorem rightSide_toJson (order : MemberOrder) (g : Group) :
    rightSide order g.toJson = some <$> group order g.toJson := by
  obtain ⟨members, hmembers⟩ := exists_toJson_eq g
  rw [hmembers, rightSide, group]

/-- The members of a group are told from those of a condition. -/
theorem operand_group (g : Group) :
    operand g.toJson = Operand.group <$> (group .sorted g.toJson).mapError .within := by
  obtain ⟨members, hmembers⟩ := exists_toJson_eq g
  rw [hmembers, operand, if_pos (by simp [isGroup, Keyed.has]), group]

theorem operand_condition (c : Condition) :
    operand c.toJson = Operand.condition <$> (condition .sorted c.toJson).mapError .within := by
  have hgroup : isGroup c.members = false := by
    unfold Condition.members
    split <;> simp [isGroup, Keyed.has]
  rw [Condition.toJson, operand, hgroup, if_neg Bool.false_ne_true]

mutual
/-- A group is decoded from its own JSON form. -/
theorem group_toJson (g : Group) (h : ∀ c ∈ g.conditions, c.value.IsCanonical) (order : MemberOrder) :
    group order g.toJson = .ok g := by
  match g with
  | ⟨c, os, js, right⟩ =>
    obtain ⟨hos, hright⟩ := List.forall_mem_append.mp h
    refine group_of_members order (operandList_toJsons os hos) fun g hg => ?_
    rw [rightSide_toJson, rightGroup_toJson right hright order g hg]
    rfl
termination_by structural g

theorem operandList_toJsons (os : List Operand) (h : ∀ c ∈ Group.operandConditions os, c.value.IsCanonical) :
    operandList (Operand.toJsons os) = .ok os := by
  match os with
  | [] => rfl
  | o :: rest =>
    obtain ⟨ho, hrest⟩ := List.forall_mem_append.mp h
    rw [Operand.toJsons, operandList, operand_toJson o ho, operandList_toJsons rest hrest]
    rfl
termination_by structural os

theorem operand_toJson (o : Operand) (h : ∀ c ∈ o.conditions, c.value.IsCanonical) : operand o.toJson = .ok o := by
  match o with
  | .condition c =>
    rw [Operand.toJson, operand_condition, condition_toJson .sorted (h c List.mem_cons_self)]
    rfl
  | .group g =>
    rw [Operand.toJson, operand_group, group_toJson g h .sorted]
    rfl
termination_by structural o

theorem rightGroup_toJson (right : Option Group) (h : ∀ c ∈ Group.rightConditions right, c.value.IsCanonical)
    (order : MemberOrder) : ∀ g, right = some g → group order g.toJson = .ok g := by
  match right with
  | none => exact nofun
  | some g =>
    intro g' hg'
    obtain rfl := Option.some.inj hg'
    exact group_toJson g h order
termination_by structural right
end

end Decoding

/-! ### Filters -/

namespace Filter

theorem ofSimple_toJson {cs : List Condition} (h : ∀ c ∈ cs, c.value.IsCanonical) :
    ofSimple (simple cs).toJson = .ok (simple cs) := by
  rw [toJson, ofSimple, Decoding.mapM_condition_toJson .written h]
  rfl

theorem ofComplex_toJson {g : Group} (h : ∀ c ∈ g.conditions, c.value.IsCanonical) :
    ofComplex (complex g).toJson = .ok (complex g) := by
  have hgroup := Decoding.group_toJson g h .written
  obtain ⟨members, hmembers⟩ := Decoding.exists_toJson_eq g
  rw [toJson]
  rw [hmembers] at hgroup ⊢
  rw [ofComplex, hgroup]
  · rfl
  · exact nofun

/-- A filter is decoded from its own JSON form: which form it has is told from the shape alone. -/
theorem ofEither_toJson {f : Filter} (h : ∀ c ∈ f.conditions, c.value.IsCanonical) : ofEither f.toJson = .ok f := by
  cases f with
  | empty => rfl
  | simple cs =>
    have hcs : ∀ c ∈ cs, c.value.IsCanonical := h
    rw [toJson, ofEither, Decoding.mapM_condition_toJson .sorted hcs]
    rfl
  | complex g =>
    have hgroup := Decoding.group_toJson g h .sorted
    obtain ⟨members, hmembers⟩ := Decoding.exists_toJson_eq g
    rw [toJson]
    rw [hmembers] at hgroup ⊢
    rw [ofEither, if_pos (by simp [Decoding.isGroup, Keyed.has]), hgroup]
    rfl

end Filter

end RowFilter
