import RowFilter.Proofs.Conversion.Recoverable

/-! The shape of recovered filters. A conjunction of criteria comes back as a list, everything else as a group whose
    only nested groups are a first operand, which has a right side then, and a right side; connectives are listed
    exactly where they differ. The tree of the filter is the predicate, with a condition for every criterion. -/

namespace RowFilter

open Success Conversion

variable {r : String → Except FilterError Kind}

/-! ### Trees -/

theorem Predicate.leftFold_concat {cs : List Connective} {ps : List Predicate} (h : ps.length = cs.length + 1)
    (c : Connective) (q : Predicate) : leftFold (cs ++ [c]) (ps ++ [q]) = .join c (leftFold cs ps) q := by
  obtain ⟨p, ps, rfl⟩ := List.exists_cons_of_length_eq_add_one h
  rw [List.cons_append, leftFold, List.zip_append (Nat.succ.inj h).symm, List.foldl_append]
  rfl

theorem Group.operandTrees_append (leaf : Condition → Criterion) (os os' : List Operand) :
    operandTrees leaf (os ++ os') = operandTrees leaf os ++ operandTrees leaf os' := by
  induction os with
  | nil => rfl
  | cons o os ih => rw [List.cons_append, operandTrees, ih, operandTrees, List.cons_append]

namespace PartialGroup

/-! The cases of joining: a group with a right side is wrapped first. -/

section
variable {g : PartialGroup} (c : Connective) (o : Operand) (right : Group)

theorem push_of_none (h : g.rightSide = none) : g.push c o = ⟨g.operands ++ [o], g.joints ++ [c], none⟩ := by
  rw [PartialGroup.push, h]

theorem push_of_some {right : Group} (h : g.rightSide = some right) :
    g.push c o = ⟨[.group g.finish, o], [c], none⟩ := by
  rw [PartialGroup.push, h]

theorem nest_of_none (h : g.rightSide = none) : g.nest c right = ⟨g.operands, g.joints ++ [c], some right⟩ := by
  rw [PartialGroup.nest, h]

theorem nest_of_some {right' : Group} (h : g.rightSide = some right') :
    g.nest c right = ⟨[.group g.finish], [c], some right⟩ := by
  rw [PartialGroup.nest, h]

end

theorem isUniform_iff {cs : List Connective} : isUniform cs = true ↔ ∀ c ∈ cs, ∀ d ∈ cs, c = d := by
  constructor
  · intro h c hc d hd
    obtain ⟨i, hi, rfl⟩ := List.mem_iff_getElem.mp hc
    obtain ⟨j, hj, rfl⟩ := List.mem_iff_getElem.mp hd
    refine Option.some.inj ?_
    rw [← List.getElem?_eq_getElem hi, ← List.getElem?_eq_getElem hj, getElem?_of_isUniform h hi,
      getElem?_of_isUniform h hj]
  · intro h
    induction cs with
    | nil => rfl
    | cons c cs ih =>
      cases cs with
      | nil => rfl
      | cons d cs =>
        rw [isUniform, Bool.and_eq_true, beq_iff_eq]
        exact ⟨h c (by simp) d (by simp), ih fun c' hc' d' hd' =>
          h c' (List.mem_cons_of_mem c hc') d' (List.mem_cons_of_mem c hd')⟩

/-- The connectives of the finished group are those that the group was made with. -/
theorem IsBalanced.connectives_finish {g : PartialGroup} (h : g.IsBalanced) : g.finish.connectives = g.joints := by
  unfold Group.connectives
  cases hu : isUniform g.joints with
  | false =>
    have hjoints : g.finish.joints = some g.joints := by simp [finish, hu]
    rw [hjoints, Option.getD_some]
  | true =>
    have hjoints : g.finish.joints = none := by simp [finish, hu]
    rw [hjoints, Option.getD_none, ← h.length_joints, eq_comm, List.eq_replicate_iff]
    refine ⟨rfl, fun c hc => ?_⟩
    obtain ⟨d, ds, hds⟩ := List.exists_cons_of_ne_nil (List.ne_nil_of_mem hc)
    have hconnective : g.finish.connective = d := by
      rw [finish, hds]
      rfl
    rw [hconnective]
    exact isUniform_iff.mp hu c hc d (hds ▸ List.mem_cons_self)

theorem IsBalanced.tree_finish {g : PartialGroup} (h : g.IsBalanced) (leaf : Condition → Criterion) :
    g.finish.tree leaf =
      .leftFold g.joints (Group.operandTrees leaf g.operands ++ Group.rightTrees leaf g.rightSide) := by
  rw [← h.connectives_finish]
  rfl

theorem IsBalanced.length_operandTrees {g : PartialGroup} (h : g.IsBalanced) (hright : g.rightSide = none)
    (leaf : Condition → Criterion) : (Group.operandTrees leaf g.operands).length = g.joints.length + 1 := by
  have hlength := h.length_joints
  have hpos := List.length_pos_iff.mpr h.operands_ne_nil
  simp only [jointCount_finish, hright, Option.isSome_none, Bool.false_eq_true, if_false] at hlength
  rw [Conversion.length_operandTrees]
  omega

theorem IsBalanced.tree_push {g : PartialGroup} (h : g.IsBalanced) (c : Connective) (o : Operand)
    (leaf : Condition → Criterion) :
    (g.push c o).finish.tree leaf = .join c (g.finish.tree leaf) (o.tree leaf) := by
  rw [(h.push c o).tree_finish]
  cases hright : g.rightSide with
  | none =>
    rw [push_of_none c o hright, h.tree_finish, hright, Group.operandTrees_append, Group.rightTrees, List.append_nil,
      List.append_nil]
    exact Predicate.leftFold_concat (h.length_operandTrees hright leaf) c (o.tree leaf)
  | some right =>
    rw [push_of_some c o hright]
    rfl

theorem IsBalanced.tree_nest {g : PartialGroup} (h : g.IsBalanced) (c : Connective) (right : Group)
    (leaf : Condition → Criterion) :
    (g.nest c right).finish.tree leaf = .join c (g.finish.tree leaf) (right.tree leaf) := by
  rw [(h.nest c right).tree_finish]
  cases hright : g.rightSide with
  | none =>
    rw [nest_of_none c right hright, h.tree_finish, hright, Group.rightTrees, Group.rightTrees, List.append_nil]
    exact Predicate.leftFold_concat (h.length_operandTrees hright leaf) c (right.tree leaf)
  | some right' =>
    rw [nest_of_some c right hright]
    rfl

end PartialGroup

namespace Conversion

theorem Spine.isBalanced {p : Predicate} {g : PartialGroup} (h : Spine r p g) : g.IsBalanced := by
  induction h with
  | single hd => exact PartialGroup.isBalanced_single _
  | push op hg hd ih => exact ih.push op _
  | nest op op' hg hg' ih ih' => exact ih.nest op _

/-- The tree of the group is the predicate with conditions for its criteria. -/
theorem Spine.tree_eq {p : Predicate} {g : PartialGroup} (h : Spine r p g) {stated : Criterion → Condition}
    (hstated : ∀ c ∈ p.criteria, toCondition r c = .ok (stated c)) (leaf : Condition → Criterion) :
    g.finish.tree leaf = p.mapCriteria fun c => leaf (stated c) := by
  induction h with
  | @single c d hd =>
    have hc := hstated c (List.mem_singleton_self c)
    rw [hd] at hc
    cases hc
    rfl
  | @push left g op c d hg hd ih =>
    have hc := hstated c (List.mem_append_right _ (List.mem_singleton_self c))
    rw [hd] at hc
    cases hc
    rw [hg.isBalanced.tree_push, ih fun c' hc' => hstated c' (List.mem_append_left _ hc')]
    rfl
  | nest op op' hg hg' ih ih' =>
    rw [hg.isBalanced.tree_nest, ih fun c hc => hstated c (List.mem_append_left _ hc),
      ih' fun c hc => hstated c (List.mem_append_right _ hc)]
    rfl

end Conversion

/-! ### Regular groups -/

/-- The shape of a recovered group. -/
structure Group.IsRegular (g : Group) : Prop where
  operands_ne_nil : g.operands ≠ []
  /-- Only the first operand can be a group, and that has a right side. -/
  nested : ∀ i h, g.operands[i]? = some (.group h) → i = 0 ∧ h.rightSide.isSome = true
  /-- Connectives are listed exactly if two of them differ. -/
  listed : g.joints.isSome = true ↔ ∃ c ∈ g.connectives, ∃ d ∈ g.connectives, c ≠ d
  length_joints : ∀ cs, g.joints = some cs →
    cs.length = g.operands.length - 1 + (if g.rightSide.isSome then 1 else 0)
  /-- The connective of the group is the first between its operands. -/
  connective : g.connectives.head? = some g.connective
  right : ∀ h, g.rightSide = some h → 2 ≤ h.conditions.length

/-- The group and all groups in it, each before the groups in it. -/
def Group.groups (g : Group) : List Group :=
  g.gather (fun h => [h]) (fun _ => [])

namespace PartialGroup

/-- The groups in the operands and in the right side. -/
def inner (g : PartialGroup) : List Group :=
  Group.gatherOperands (fun h => [h]) (fun _ => []) g.operands ++
    Group.gatherRight (fun h => [h]) (fun _ => []) g.rightSide

theorem groups_finish (g : PartialGroup) : g.finish.groups = g.finish :: g.inner := rfl

/-- Everything in a group in the making has the shape of a recovered group. -/
structure IsRegular (g : PartialGroup) : Prop where
  isBalanced : g.IsBalanced
  nested : ∀ i h, g.operands[i]? = some (.group h) → i = 0 ∧ h.rightSide.isSome = true
  right : ∀ h, g.rightSide = some h → 2 ≤ h.conditions.length
  inner : ∀ h ∈ g.inner, h.IsRegular

theorem gatherOperands_append {α : Type} (a : Group → List α) (b : Condition → List α) (os os' : List Operand) :
    Group.gatherOperands a b (os ++ os') = Group.gatherOperands a b os ++ Group.gatherOperands a b os' := by
  induction os with
  | nil => rfl
  | cons o os ih => rw [List.cons_append, Group.gatherOperands, ih, Group.gatherOperands, List.append_assoc]

theorem joints_ne_nil_of_rightSide {g : PartialGroup} (h : g.IsBalanced) (hright : g.rightSide.isSome = true) :
    g.joints ≠ [] := by
  have hlength := h.length_joints
  rw [jointCount_finish, if_pos hright] at hlength
  intro hnil
  rw [hnil, List.length_nil] at hlength
  omega

/-- A finished group with a connective is regular, and so are the groups in it. -/
theorem IsRegular.finish {g : PartialGroup} (h : g.IsRegular) (hjoints : g.joints ≠ []) :
    ∀ h ∈ g.finish.groups, h.IsRegular := by
  rw [groups_finish]
  refine List.forall_mem_cons.mpr ⟨?_, h.inner⟩
  refine ⟨h.isBalanced.operands_ne_nil, h.nested, ?_, fun cs hcs => ?_, ?_, h.right⟩
  · rw [h.isBalanced.connectives_finish]
    have hlisted : g.finish.joints.isSome = !isUniform g.joints := by
      unfold PartialGroup.finish
      cases isUniform g.joints <;> rfl
    rw [hlisted, Bool.not_eq_true', ← Bool.not_eq_true, isUniform_iff]
    simp only [Classical.not_forall, exists_prop, ne_eq]
  · have hcs' : cs = g.joints := by
      unfold PartialGroup.finish at hcs
      cases hu : isUniform g.joints with
      | true => simp [hu] at hcs
      | false =>
        simp only [hu, Bool.false_eq_true, if_false, Option.some.injEq] at hcs
        exact hcs.symm
    rw [hcs', h.isBalanced.length_joints]
    rfl
  · rw [h.isBalanced.connectives_finish]
    obtain ⟨c, cs, hcs⟩ := List.exists_cons_of_ne_nil hjoints
    unfold PartialGroup.finish
    rw [hcs]
    rfl

theorem isRegular_single (d : Condition) : (single (.condition d)).IsRegular := by
  refine ⟨isBalanced_single _, fun i h hi => ?_, nofun, nofun⟩
  cases i <;> cases hi

theorem IsRegular.push {g : PartialGroup} (h : g.IsRegular) (c : Connective) (d : Condition) :
    (g.push c (.condition d)).IsRegular := by
  have hbalanced := h.isBalanced.push c (.condition d)
  cases hright : g.rightSide with
  | none =>
    rw [push_of_none c _ hright] at hbalanced ⊢
    refine ⟨hbalanced, fun i k hi => ?_, nofun, fun k hk => h.inner k ?_⟩
    · by_cases hlt : i < g.operands.length
      · rw [List.getElem?_append_left hlt] at hi
        exact h.nested i k hi
      · rw [List.getElem?_append_right (Nat.le_of_not_lt hlt)] at hi
        generalize i - g.operands.length = n at hi
        cases n <;> cases hi
    · rw [PartialGroup.inner, hright]
      simpa [PartialGroup.inner, gatherOperands_append, Group.gatherOperands, Operand.gather] using hk
  | some right =>
    have hfinish := h.finish (joints_ne_nil_of_rightSide h.isBalanced (by rw [hright]; rfl))
    rw [push_of_some c _ hright] at hbalanced ⊢
    refine ⟨hbalanced, fun i k hi => ?_, nofun, fun k hk => hfinish k ?_⟩
    · rcases i with _ | _ | i
      · cases hi
        exact ⟨rfl, Option.isSome_iff_exists.mpr ⟨right, hright⟩⟩
      · cases hi
      · cases hi
    · simpa [PartialGroup.inner, Group.gatherOperands, Group.gatherRight, Operand.gather, Group.groups] using hk

theorem IsRegular.nest {g : PartialGroup} (h : g.IsRegular) (c : Connective) {right : Group}
    (hgroups : ∀ k ∈ right.groups, k.IsRegular) (hconditions : 2 ≤ right.conditions.length) :
    (g.nest c right).IsRegular := by
  have hbalanced := h.isBalanced.nest c right
  cases hright : g.rightSide with
  | none =>
    rw [nest_of_none c _ hright] at hbalanced ⊢
    refine ⟨hbalanced, h.nested, fun k hk => ?_, fun k hk => ?_⟩
    · cases hk
      exact hconditions
    · rcases List.mem_append.mp hk with hk | hk
      · exact h.inner k (List.mem_append_left _ hk)
      · exact hgroups k hk
  | some right' =>
    have hfinish := h.finish (joints_ne_nil_of_rightSide h.isBalanced (by rw [hright]; rfl))
    rw [nest_of_some c _ hright] at hbalanced ⊢
    refine ⟨hbalanced, fun i k hi => ?_, fun k hk => ?_, fun k hk => ?_⟩
    · rcases i with _ | i
      · cases hi
        exact ⟨rfl, Option.isSome_iff_exists.mpr ⟨right', hright⟩⟩
      · cases hi
    · cases hk
      exact hconditions
    · rcases List.mem_append.mp hk with hk | hk
      · refine hfinish k ?_
        simpa [Group.gatherOperands, Operand.gather, Group.groups] using hk
      · exact hgroups k hk

theorem joints_push_ne_nil (g : PartialGroup) (c : Connective) (o : Operand) : (g.push c o).joints ≠ [] := by
  cases hright : g.rightSide with
  | none => simp [push_of_none c o hright]
  | some right => simp [push_of_some c o hright]

theorem joints_nest_ne_nil (g : PartialGroup) (c : Connective) (right : Group) : (g.nest c right).joints ≠ [] := by
  cases hright : g.rightSide with
  | none => simp [nest_of_none c right hright]
  | some right' => simp [nest_of_some c right hright]

end PartialGroup

namespace Conversion

theorem Spine.joints_ne_nil {op : Connective} {left right : Predicate} {g : PartialGroup}
    (h : Spine r (.join op left right) g) : g.joints ≠ [] := by
  cases h with
  | push op hg hd => exact PartialGroup.joints_push_ne_nil _ _ _
  | nest op op' hg hg' => exact PartialGroup.joints_nest_ne_nil _ _ _

theorem Spine.conditions_pos {p : Predicate} {g : PartialGroup} (h : Spine r p g) :
    0 < g.finish.conditions.length := by
  induction h with
  | single hd => exact Nat.zero_lt_one
  | push op hg hd ih =>
    rw [PartialGroup.conditions_push, List.length_append]
    omega
  | nest op op' hg hg' ih ih' =>
    rw [PartialGroup.conditions_nest, List.length_append]
    omega

theorem Spine.two_le_conditions {op : Connective} {left right : Predicate} {g : PartialGroup}
    (h : Spine r (.join op left right) g) : 2 ≤ g.finish.conditions.length := by
  cases h with
  | push op hg hd =>
    have hpos := hg.conditions_pos
    rw [PartialGroup.conditions_push, List.length_append, Operand.conditions, List.length_singleton]
    omega
  | nest op op' hg hg' =>
    have hpos := hg.conditions_pos
    have hpos' := hg'.conditions_pos
    rw [PartialGroup.conditions_nest, List.length_append]
    omega

theorem Spine.isRegular {p : Predicate} {g : PartialGroup} (h : Spine r p g) : g.IsRegular := by
  induction h with
  | single hd => exact PartialGroup.isRegular_single _
  | push op hg hd ih => exact ih.push op _
  | nest op op' hg hg' ih ih' => exact ih.nest op (ih'.finish hg'.joints_ne_nil) hg'.two_le_conditions

end Conversion

/-! ### Lists of conditions -/

/-- Criteria joined by "and", one after another from the left. -/
inductive Predicate.IsConjunction : Predicate → Prop where
  | leaf (c : Criterion) : IsConjunction (.leaf c)
  | join {p : Predicate} (c : Criterion) : IsConjunction p → IsConjunction (.join .and p (.leaf c))

theorem Predicate.isConjunction_join_leaf {op : Connective} {p : Predicate} {c : Criterion} :
    (Predicate.join op p (.leaf c)).IsConjunction ↔ op = .and ∧ p.IsConjunction := by
  constructor
  · intro h
    cases h with
    | join c hp => exact ⟨rfl, hp⟩
  · rintro ⟨rfl, hp⟩
    exact .join c hp

namespace PartialGroup

/-- The group has nothing but conditions, all of which must hold. -/
def IsFlat (g : PartialGroup) : Prop :=
  g.rightSide = none ∧ (∀ c ∈ g.joints, c = .and) ∧ ∃ ds, conditions? g.operands = some ds

theorem conditions?_concat (os : List Operand) (d : Condition) :
    conditions? (os ++ [.condition d]) = (conditions? os).map (· ++ [d]) := by
  induction os with
  | nil => rfl
  | cons o os ih =>
    cases o with
    | condition d' =>
      rw [List.cons_append, conditions?, ih, conditions?, Option.map_map, Option.map_map]
      rfl
    | group g => rfl

theorem isFlat_push {g : PartialGroup} (c : Connective) (d : Condition) :
    (g.push c (.condition d)).IsFlat ↔ c = .and ∧ g.IsFlat := by
  unfold IsFlat
  cases hright : g.rightSide with
  | none =>
    rw [push_of_none c _ hright, conditions?_concat]
    simp only [List.forall_mem_append, List.forall_mem_singleton, true_and, Option.map_eq_some_iff]
    constructor
    · rintro ⟨⟨hall, hc⟩, ds, ds', hds', -⟩
      exact ⟨hc, hall, ds', hds'⟩
    · rintro ⟨hc, hall, ds, hds⟩
      exact ⟨⟨hall, hc⟩, ds ++ [d], ds, hds, rfl⟩
  | some right =>
    rw [push_of_some c _ hright]
    constructor
    · rintro ⟨-, -, ds, hds⟩
      cases hds
    · rintro ⟨-, hnone, -⟩
      cases hnone

theorem not_isFlat_nest (g : PartialGroup) (c : Connective) (right : Group) : ¬(g.nest c right).IsFlat := by
  rintro ⟨hnone, -⟩
  cases hright : g.rightSide with
  | none =>
    rw [nest_of_none c right hright] at hnone
    cases hnone
  | some right' =>
    rw [nest_of_some c right hright] at hnone
    cases hnone

theorem toFilter_of_isFlat {g : PartialGroup} (h : g.IsFlat) :
    ∃ ds, conditions? g.operands = some ds ∧ g.toFilter = .simple ds := by
  obtain ⟨hright, hall, ds, hds⟩ := h
  have hand : g.joints.all (· == .and) = true := List.all_eq_true.mpr fun c hc => beq_iff_eq.mpr (hall c hc)
  refine ⟨ds, hds, ?_⟩
  unfold toFilter
  rw [hright, hand, hds]

theorem toFilter_of_not_isFlat {g : PartialGroup} (h : ¬g.IsFlat) : g.toFilter = .complex g.finish := by
  unfold toFilter
  split
  · next ds hright hall hds =>
    exact absurd ⟨hright, fun c hc => beq_iff_eq.mp (List.all_eq_true.mp hall c hc), ds, hds⟩ h
  · rfl

theorem operandTrees_of_conditions? {os : List Operand} {ds : List Condition} (h : conditions? os = some ds)
    (leaf : Condition → Criterion) : Group.operandTrees leaf os = ds.map fun d => .leaf (leaf d) := by
  induction os generalizing ds with
  | nil =>
    cases h
    rfl
  | cons o os ih =>
    cases o with
    | condition d =>
      obtain ⟨ds', hds', rfl⟩ := Option.map_eq_some_iff.mp h
      rw [Group.operandTrees, ih hds', Operand.tree, List.map_cons]
    | group g => cases h

/-- The filter has the tree of the finished group, be it a list or that group. -/
theorem IsBalanced.tree_toFilter {g : PartialGroup} (h : g.IsBalanced) (leaf : Condition → Criterion) :
    g.toFilter.tree leaf = g.finish.tree leaf := by
  by_cases hflat : g.IsFlat
  · obtain ⟨ds, hds, hfilter⟩ := toFilter_of_isFlat hflat
    obtain ⟨hright, hall, -⟩ := hflat
    have htrees := operandTrees_of_conditions? hds leaf
    have hlength := h.length_operandTrees hright leaf
    rw [htrees, List.length_map] at hlength
    have hjoints : g.joints = List.replicate (ds.length - 1) .and :=
      List.eq_replicate_iff.mpr ⟨by omega, hall⟩
    rw [hfilter, h.tree_finish, htrees, hright, Group.rightTrees, List.append_nil, hjoints]
    rfl
  · rw [toFilter_of_not_isFlat hflat]
    rfl

end PartialGroup

namespace Conversion

theorem Spine.isFlat_iff {p : Predicate} {g : PartialGroup} (h : Spine r p g) : g.IsFlat ↔ p.IsConjunction := by
  induction h with
  | @single c d hd => exact ⟨fun _ => .leaf c, fun _ => ⟨rfl, nofun, [d], rfl⟩⟩
  | push op hg hd ih => rw [PartialGroup.isFlat_push, Predicate.isConjunction_join_leaf, ih]
  | nest op op' hg hg' ih ih' =>
    refine ⟨fun hflat => absurd hflat (PartialGroup.not_isFlat_nest _ _ _), nofun⟩

/-- The condition of a criterion, a default one if it has none. -/
def statedOf (r : String → Except FilterError Kind) (c : Criterion) : Condition :=
  match toCondition r c with
  | .ok d => d
  | .error _ => default

theorem toCondition_statedOf {c : Criterion} {d : Condition} (h : toCondition r c = .ok d) :
    toCondition r c = .ok (statedOf r c) := by
  rw [statedOf, h]

end Conversion

/-! ### The shape of a recovered filter -/

/-- A list is recovered from a conjunction of criteria, and a group from every other predicate but that of every row;
    all groups in it are regular. The filter has a condition for each criterion, in order, and its tree over them is
    the predicate. -/
theorem Schema.recover_shape {s : Schema} {entity : String} {p : Predicate} {f : Filter} (hp : p ≠ .always)
    (hf : s.recover entity p = .ok f) :
    ((∃ ds, f = .simple ds) ↔ p.IsConjunction) ∧ ((∃ g, f = .complex g) ↔ ¬p.IsConjunction) ∧
    (∀ g ∈ f.groups, g.IsRegular) ∧
    ∃ stated : Criterion → Condition, f.conditions = p.criteria.map stated ∧
      (∀ leaf : Condition → Criterion, f.tree leaf = p.mapCriteria fun c => leaf (stated c)) ∧
      ∀ c ∈ p.criteria, (stated c).field = c.field ∧
        c.test.stated? = some ((stated c).operator, (stated c).value) := by
  have htoFilter : toFilter (s.kindOf entity) p = .ok f := hf
  have hmapM := (joined_of_toFilter htoFilter).2
  have hstated : ∀ c ∈ p.criteria, toCondition (s.kindOf entity) c = .ok (statedOf (s.kindOf entity) c) := by
    intro c hc
    obtain ⟨d, hd⟩ := exists_of_mapM hmapM hc
    exact toCondition_statedOf hd
  unfold toFilter at htoFilter
  split at htoFilter
  · exact absurd rfl hp
  obtain ⟨g, hg, hfilter⟩ := bind_eq_ok_iff.mp htoFilter
  cases hfilter
  have hspine := spine_of_toGroup hg
  refine ⟨?_, ?_, ?_, statedOf (s.kindOf entity), ?_, fun leaf => ?_, fun c hc => ?_⟩
  · rw [← hspine.isFlat_iff]
    by_cases hflat : g.IsFlat
    · obtain ⟨ds, -, hsimple⟩ := PartialGroup.toFilter_of_isFlat hflat
      exact ⟨fun _ => hflat, fun _ => ⟨ds, hsimple⟩⟩
    · rw [PartialGroup.toFilter_of_not_isFlat hflat]
      exact ⟨nofun, fun h => absurd h hflat⟩
  · rw [← hspine.isFlat_iff]
    by_cases hflat : g.IsFlat
    · obtain ⟨ds, -, hsimple⟩ := PartialGroup.toFilter_of_isFlat hflat
      rw [hsimple]
      exact ⟨nofun, fun h => absurd hflat h⟩
    · exact ⟨fun _ => hflat, fun _ => ⟨g.finish, PartialGroup.toFilter_of_not_isFlat hflat⟩⟩
  · by_cases hflat : g.IsFlat
    · obtain ⟨ds, -, hsimple⟩ := PartialGroup.toFilter_of_isFlat hflat
      rw [hsimple]
      exact nofun
    · have hjoints : g.joints ≠ [] := by
        cases p with
        | leaf c => exact absurd (hspine.isFlat_iff.mpr (.leaf c)) hflat
        | join op left right => exact hspine.joints_ne_nil
        | _ => cases hspine
      rw [PartialGroup.toFilter_of_not_isFlat hflat]
      exact hspine.isRegular.finish hjoints
  · rw [mapM_eq_ok_map hstated] at hmapM
    exact (Except.ok.inj hmapM).symm
  · rw [hspine.isBalanced.tree_toFilter, hspine.tree_eq hstated]
  · obtain ⟨k, -, hcondition⟩ := toCondition_eq_ok_iff.mp (hstated c hc)
    obtain ⟨-, -, -, hvalue, hfield⟩ := Criterion.condition_eq_ok_iff.mp hcondition
    exact ⟨hfield, hvalue⟩

/-- A group with a right side that becomes the first operand of another one with a right side, and connectives that
    differ. -/
theorem Schema.recover_shape_nested :
    let s : Schema := ⟨[("user", [("a", .value .integer), ("b", .value .text)])]⟩
    let a : Predicate := .leaf ⟨"a", .integer, .member true [.integer 1]⟩
    let b : Predicate := .leaf ⟨"b", .text, .like "\\_%"⟩
    let p : Predicate := .join .and (.join .or (.join .and a (.join .or b a)) b) (.join .or b b)
    let da : Operand := .condition ⟨"a", .member true, .array [.number (.integer 1)]⟩
    let db : Operand := .condition ⟨"b", .pattern .front, .text "_"⟩
    let g : Group := ⟨.or, [.group ⟨.and, [da], none, some (.uniform .or [db, da])⟩, db], some [.or, .and],
      some (.uniform .or [db, db])⟩
    p ≠ .always ∧ s.recover "user" p = .ok (.complex g) ∧ ¬p.IsConjunction ∧ (∀ h ∈ g.groups, h.IsRegular) ∧
      ∃ stated : Criterion → Condition, g.conditions = p.criteria.map stated ∧
        ∀ leaf : Condition → Criterion, g.tree leaf = p.mapCriteria fun c => leaf (stated c) := by
  intro s a b p da db g
  have hp : p ≠ .always := nofun
  have hf : s.recover "user" p = .ok (.complex g) := by rfl
  obtain ⟨-, hcomplex, hregular, stated, hconditions, htree, -⟩ := recover_shape hp hf
  exact ⟨hp, hf, hcomplex.mp ⟨g, rfl⟩, hregular, stated, hconditions, htree⟩

end RowFilter
