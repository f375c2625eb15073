import RowFilter.Proofs.Conversion.PartialGroup
import RowFilter.Proofs.Filter.Conditions

/-! The filter that is recovered from a predicate gives back the tree of the predicate: only its criteria
    can differ, each being read again from the condition that states it. -/

namespace RowFilter

open Success Conversion

variable {r : String → Except FilterError Kind}

namespace Conversion

theorem toCondition_eq_ok_iff {c : Criterion} {d : Condition} :
    toCondition r c = .ok d ↔ ∃ k, r c.field = .ok k ∧ c.condition k = .ok d := by
  unfold toCondition
  rw [bind_eq_ok_iff]
  refine exists_congr fun k => and_congr_right fun _ => ?_
  cases c.condition k with
  | error e => exact ⟨nofun, nofun⟩
  | ok d' => exact pure_eq_ok_iff.trans (Except.ok.injEq d' d).symm.to_iff

end Conversion

/-! ### Predicates read again -/

namespace Predicate

/-- The predicate is made of criteria and joins. -/
inductive IsJoined : Predicate → Prop where
  | leaf (c : Criterion) : IsJoined (.leaf c)
  | join {op : Connective} {left right : Predicate} : IsJoined left → IsJoined right →
      IsJoined (.join op left right)

/-- The predicate, each of its criteria stated as a condition and read again. -/
def reread (r : String → Except FilterError Kind) : Predicate → Except FilterError Predicate
  | leaf c => toCondition r c >>= ofCondition r
  | join op left right => do
    let p ← reread r left
    let q ← reread r right
    return .join op p q
  | negation p => negation <$> reread r p
  | p => pure p

/-- The predicate with its criteria changed. -/
def mapCriteria (f : Criterion → Criterion) : Predicate → Predicate
  | leaf c => leaf (f c)
  | join op left right => join op (left.mapCriteria f) (right.mapCriteria f)
  | negation p => negation (p.mapCriteria f)
  | p => p

theorem mapCriteria_eq_self {f : Criterion → Criterion} {p : Predicate} (h : ∀ c ∈ p.criteria, f c = c) :
    p.mapCriteria f = p := by
  induction p with
  | leaf c => rw [mapCriteria, h c (List.mem_singleton_self c)]
  | join op left right ihl ihr =>
    rw [mapCriteria, ihl fun c hc => h c (List.mem_append_left _ hc), ihr fun c hc => h c (List.mem_append_right _ hc)]
  | negation p ih => rw [mapCriteria, ih h]
  | _ => rfl

/-- Criteria that are read as others give the predicate with those. -/
theorem reread_eq_ok {f : Criterion → Criterion} {p : Predicate}
    (h : ∀ c ∈ p.criteria, (toCondition r c >>= ofCondition r) = .ok (.leaf (f c))) :
    p.reread r = .ok (p.mapCriteria f) := by
  induction p with
  | leaf c => exact h c (List.mem_singleton_self c)
  | join op left right ihl ihr =>
    rw [reread, ihl fun c hc => h c (List.mem_append_left _ hc), ihr fun c hc => h c (List.mem_append_right _ hc)]
    rfl
  | negation p ih =>
    rw [reread, ih h]
    rfl
  | _ => rfl

theorem reread_eq_self {p : Predicate}
    (h : ∀ c ∈ p.criteria, (toCondition r c >>= ofCondition r) = .ok (.leaf c)) : p.reread r = .ok p := by
  have hsame : p.reread r = .ok (p.mapCriteria id) := reread_eq_ok h
  rwa [mapCriteria_eq_self (f := id) fun _ _ => rfl] at hsame

/-- A predicate is read again only if each of its criteria is. -/
theorem leaf_of_reread {p q : Predicate} (h : p.reread r = .ok q) {c : Criterion} (hc : c ∈ p.criteria) :
    ∃ q', (toCondition r c >>= ofCondition r) = .ok q' := by
  induction p generalizing q with
  | leaf c' =>
    obtain rfl := List.mem_singleton.mp hc
    exact ⟨q, h⟩
  | join op left right ihl ihr =>
    rw [reread, bind_eq_ok_iff] at h
    obtain ⟨p', hl, h⟩ := h
    rw [bind_eq_ok_iff] at h
    obtain ⟨q', hr, -⟩ := h
    rcases List.mem_append.mp hc with hc | hc
    · exact ihl hl hc
    · exact ihr hr hc
  | negation p ih =>
    rw [reread, map_eq_ok_iff] at h
    obtain ⟨p', hp, -⟩ := h
    exact ih hp hc
  | always => cases hc
  | raw sql => cases hc

end Predicate

/-! ### The group along the left spine -/

namespace PartialGroup

theorem conditions_push (g : PartialGroup) (c : Connective) (o : Operand) :
    (g.push c o).finish.conditions = g.finish.conditions ++ o.conditions := by
  unfold push
  split
  · next hright =>
    simp [finish, hright, Group.conditions, Group.operandConditions_append, Group.operandConditions,
      Group.rightConditions]
  · simp [finish, Group.conditions, Group.operandConditions, Group.rightConditions, Operand.conditions]

theorem conditions_nest (g : PartialGroup) (c : Connective) (right : Group) :
    (g.nest c right).finish.conditions = g.finish.conditions ++ right.conditions := by
  unfold nest
  split
  · next hright => simp [finish, hright, Group.conditions, Group.rightConditions]
  · simp [finish, Group.conditions, Group.operandConditions, Group.rightConditions, Operand.conditions]

end PartialGroup

namespace Conversion

theorem toGroup_join_leaf (op : Connective) (left : Predicate) (c : Criterion) :
    toGroup r (.join op left (.leaf c)) = do
      let g ← toGroup r left
      let d ← toCondition r c
      return g.push op (.condition d) := by
  rw [toGroup]

theorem toGroup_join_join (op : Connective) (left : Predicate) (op' : Connective) (left' right' : Predicate) :
    toGroup r (.join op left (.join op' left' right')) = do
      let g ← toGroup r left
      let g' ← toGroup r (.join op' left' right')
      return g.nest op g'.finish := by
  rw [toGroup]

/-- The group in the making along the left spine of a predicate: conditions are joined on the right of it, and other
    joins as finished groups. -/
inductive Spine (r : String → Except FilterError Kind) : Predicate → PartialGroup → Prop where
  | single {c : Criterion} {d : Condition} (hd : toCondition r c = .ok d) : Spine r (.leaf c) (.single (.condition d))
  | push {left : Predicate} {g : PartialGroup} (op : Connective) {c : Criterion} {d : Condition}
      (hg : Spine r left g) (hd : toCondition r c = .ok d) :
      Spine r (.join op left (.leaf c)) (g.push op (.condition d))
  | nest {left left' right' : Predicate} {g g' : PartialGroup} (op op' : Connective) (hg : Spine r left g)
      (hg' : Spine r (.join op' left' right') g') :
      Spine r (.join op left (.join op' left' right')) (g.nest op g'.finish)

theorem spine_of_toGroup {p : Predicate} {g : PartialGroup} (h : toGroup r p = .ok g) : Spine r p g := by
  induction p generalizing g with
  | leaf c =>
    rw [toGroup] at h
    obtain ⟨d, hd, h⟩ := bind_eq_ok_iff.mp h
    cases h
    exact .single hd
  | join op left right ihl ihr =>
    rw [toGroup] at h
    obtain ⟨gl, hgl, h⟩ := bind_eq_ok_iff.mp h
    cases right with
    | leaf c =>
      obtain ⟨d, hd, h⟩ := bind_eq_ok_iff.mp h
      cases h
      exact .push op (ihl hgl) hd
    | join op' left' right' =>
      obtain ⟨gr, hgr, h⟩ := bind_eq_ok_iff.mp h
      cases h
      exact .nest op op' (ihl hgl) (ihr hgr)
    | _ => cases h
  | _ => cases h

/-- The group of a predicate is balanced and means the predicate read again. -/
theorem meaning_of_toGroup {p : Predicate} {g : PartialGroup} (h : toGroup r p = .ok g) :
    g.IsBalanced ∧ g.meaning r = p.reread r := by
  have hspine := spine_of_toGroup h
  clear h
  induction hspine with
  | single hd =>
    refine ⟨PartialGroup.isBalanced_single _, ?_⟩
    rw [PartialGroup.meaning_single, ofOperand, Predicate.reread, hd]
    rfl
  | push op hg hd ih =>
    obtain ⟨hbalanced, hmeaning⟩ := ih
    refine ⟨hbalanced.push op _, ?_⟩
    rw [hbalanced.meaning_push, ofOperand, Predicate.reread, Predicate.reread, hmeaning, hd]
    rfl
  | nest op op' hg hg' ih ih' =>
    obtain ⟨hbalanced, hmeaning⟩ := ih
    obtain ⟨hbalanced', hmeaning'⟩ := ih'
    refine ⟨hbalanced.nest op _, ?_⟩
    rw [hbalanced.meaning_nest, hbalanced'.ofGroup_finish, hmeaning', hmeaning]
    rfl

/-- Criteria and joins have a group if every criterion has a condition. -/
theorem exists_toGroup {p : Predicate} (hp : p.IsJoined)
    (h : ∀ c ∈ p.criteria, ∃ d, toCondition r c = .ok d) : ∃ g, toGroup r p = .ok g := by
  induction hp with
  | leaf c =>
    obtain ⟨d, hd⟩ := h c (List.mem_singleton_self c)
    refine ⟨.single (.condition d), ?_⟩
    rw [toGroup, hd]
    rfl
  | @join op left right _ hright ihl ihr =>
    obtain ⟨gl, hgl⟩ := ihl fun c hc => h c (List.mem_append_left _ hc)
    cases hright with
    | leaf c =>
      obtain ⟨d, hd⟩ := h c (List.mem_append_right _ (List.mem_singleton_self c))
      refine ⟨gl.push op (.condition d), ?_⟩
      rw [toGroup_join_leaf, hgl, ok_bind, hd]
      rfl
    | join _ _ =>
      obtain ⟨gr, hgr⟩ := ihr fun c hc => h c (List.mem_append_right _ hc)
      refine ⟨gl.nest op gr.finish, ?_⟩
      rw [toGroup_join_join, hgl, ok_bind, hgr]
      rfl

/-- Only criteria and joins have a group, with a condition for each criterion, in order. -/
theorem joined_of_toGroup {p : Predicate} {g : PartialGroup} (h : toGroup r p = .ok g) :
    p.IsJoined ∧ p.criteria.mapM (toCondition r) = .ok g.finish.conditions := by
  have hspine := spine_of_toGroup h
  clear h
  induction hspine with
  | single hd => exact ⟨.leaf _, mapM_singleton hd⟩
  | push op hg hd ih =>
    obtain ⟨hjoined, hconditions⟩ := ih
    refine ⟨.join hjoined (.leaf _), ?_⟩
    rw [PartialGroup.conditions_push]
    exact mapM_append hconditions (mapM_singleton hd)
  | nest op op' hg hg' ih ih' =>
    obtain ⟨hjoined, hconditions⟩ := ih
    obtain ⟨hjoined', hconditions'⟩ := ih'
    refine ⟨.join hjoined hjoined', ?_⟩
    rw [PartialGroup.conditions_nest]
    exact mapM_append hconditions hconditions'

end Conversion

/-! ### The recovered filter -/

namespace PartialGroup

theorem ofConditions_of_conditions? {os : List Operand} {cs : List Condition} (h : conditions? os = some cs) :
    ofConditions r cs = ofOperands r os := by
  induction os generalizing cs with
  | nil =>
    cases h
    rw [ofConditions, ofOperands]
  | cons o os ih =>
    cases o with
    | condition c =>
      obtain ⟨ds, hds, rfl⟩ := Option.map_eq_some_iff.mp h
      rw [ofConditions, ih hds, ofOperands, ofOperand]
    | group g => cases h

theorem operandConditions_of_conditions? {os : List Operand} {cs : List Condition} (h : conditions? os = some cs) :
    Group.operandConditions os = cs := by
  induction os generalizing cs with
  | nil =>
    cases h
    rfl
  | cons o os ih =>
    cases o with
    | condition c =>
      obtain ⟨ds, hds, rfl⟩ := Option.map_eq_some_iff.mp h
      exact congrArg (c :: ·) (ih hds)
    | group g => cases h

theorem conditions_toFilter (g : PartialGroup) : g.toFilter.conditions = g.finish.conditions := by
  unfold toFilter
  split
  · next cs hright _ hconditions =>
    rw [Filter.conditions, finish, Group.conditions, operandConditions_of_conditions? hconditions, hright,
      Group.rightConditions, List.append_nil]
  · rfl

/-- Conditions that must all hold mean the same as a list and as a group. -/
theorem IsBalanced.ofFilter_toFilter {g : PartialGroup} (h : g.IsBalanced) :
    ofFilter r g.toFilter = g.meaning r := by
  unfold toFilter
  split
  · next cs hright hall hconditions =>
    have hand : ∀ i : Nat, g.joints[i]?.getD Connective.and = .and := by
      intro i
      cases hi : g.joints[i]? with
      | none => rfl
      | some c => simpa using List.all_eq_true.mp hall c (List.mem_of_getElem? hi)
    unfold meaning
    rw [ofFilter, ofConditions_of_conditions? hconditions, hright, ofRightSide]
    cases ofOperands r g.operands with
    | error e => rfl
    | ok ps => simp only [hand, ok_bind, pure_bind, List.append_nil]; rfl
  · exact h.ofGroup_finish

end PartialGroup

namespace Conversion

/-- The recovered filter means the predicate read again. -/
theorem ofFilter_of_toFilter {p : Predicate} {f : Filter} (h : toFilter r p = .ok f) :
    ofFilter r f = p.reread r := by
  unfold toFilter at h
  split at h
  · cases h
    rfl
  · obtain ⟨g, hg, h⟩ := bind_eq_ok_iff.mp h
    cases h
    obtain ⟨hbalanced, hmeaning⟩ := meaning_of_toGroup hg
    rw [hbalanced.ofFilter_toFilter, hmeaning]

theorem toFilter_of_toGroup {p : Predicate} {g : PartialGroup} (h : toGroup r p = .ok g) :
    toFilter r p = .ok g.toFilter := by
  unfold toFilter
  split
  · cases h
  · rw [h]
    rfl

/-- Only every row, and criteria and joins, have a filter, with a condition for each criterion, in
    order. -/
theorem joined_of_toFilter {p : Predicate} {f : Filter} (h : toFilter r p = .ok f) :
    (p = .always ∨ p.IsJoined) ∧ p.criteria.mapM (toCondition r) = .ok f.conditions := by
  unfold toFilter at h
  split at h
  · cases h
    exact ⟨.inl rfl, rfl⟩
  · obtain ⟨g, hg, h⟩ := bind_eq_ok_iff.mp h
    cases h
    obtain ⟨hjoined, hconditions⟩ := joined_of_toGroup hg
    exact ⟨.inr hjoined, hconditions.trans (congrArg Except.ok g.conditions_toFilter.symm)⟩

/-- Every row, and criteria and joins, have a filter if every criterion has a condition. -/
theorem exists_toFilter {p : Predicate} (hp : p = .always ∨ p.IsJoined)
    (h : ∀ c ∈ p.criteria, ∃ d, toCondition r c = .ok d) : ∃ f, toFilter r p = .ok f := by
  rcases hp with rfl | hjoined
  · exact ⟨.empty, rfl⟩
  · obtain ⟨g, hg⟩ := exists_toGroup hjoined h
    exact ⟨g.toFilter, toFilter_of_toGroup hg⟩

end Conversion

end RowFilter
