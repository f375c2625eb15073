import RowFilter.Proofs.Conversion.Recovery
import RowFilter.Proofs.Filter.Conditions

/-! What the forward conversion makes: every row, or criteria and joins, with one criterion for each
    condition of the filter, in the order in which the conditions stand. -/

namespace RowFilter

open Success Conversion

variable {r : String → Except FilterError Kind}

/-! ### Criteria of chains -/

namespace Predicate

theorem IsJoined.chainFrom {joins : Nat → Connective} {i : Nat} {p : Predicate} {ps : List Predicate}
    (hp : p.IsJoined) (hps : ∀ q ∈ ps, q.IsJoined) : (chainFrom joins i p ps).IsJoined := by
  induction ps generalizing i p with
  | nil => exact hp
  | cons q ps ih =>
    obtain ⟨hq, hps⟩ := List.forall_mem_cons.mp hps
    exact ih (.join hp hq) hps

theorem criteria_chainFrom (joins : Nat → Connective) (i : Nat) (p : Predicate) (ps : List Predicate) :
    (chainFrom joins i p ps).criteria = p.criteria ++ ps.flatMap criteria := by
  induction ps generalizing i p with
  | nil => simp [chainFrom]
  | cons q ps ih => rw [chainFrom, ih, criteria, List.append_assoc, List.flatMap_cons]

theorem criteria_chain (joins : Nat → Connective) (ps : List Predicate) :
    (chain joins ps).criteria = ps.flatMap criteria := by
  cases ps with
  | nil => rfl
  | cons p ps => rw [chain, criteria_chainFrom, List.flatMap_cons]

theorem IsJoined.chain {joins : Nat → Connective} {ps : List Predicate} (hne : ps ≠ [])
    (hps : ∀ q ∈ ps, q.IsJoined) : (chain joins ps).IsJoined := by
  cases ps with
  | nil => exact absurd rfl hne
  | cons p ps =>
    obtain ⟨hp, hps⟩ := List.forall_mem_cons.mp hps
    exact hp.chainFrom hps

end Predicate

/-! ### Criteria of compiled filters -/

namespace Conversion

/-- The criterion of a condition, its field resolved. -/
def criterionOf (r : String → Except FilterError Kind) (d : Condition) : Except FilterError Criterion := do
  let k ← r d.field
  d.criterion k

theorem ofCondition_eq_map (d : Condition) : ofCondition r d = Predicate.leaf <$> criterionOf r d := by
  unfold ofCondition criterionOf
  cases r d.field with
  | error e => rfl
  | ok k =>
    simp only [ok_bind]
    cases d.criterion k <;> rfl

theorem criteria_of_ofCondition {d : Condition} {p : Predicate} (h : ofCondition r d = .ok p) :
    p.IsJoined ∧ [d].mapM (criterionOf r) = .ok p.criteria := by
  rw [ofCondition_eq_map, map_eq_ok_iff] at h
  obtain ⟨c, hc, rfl⟩ := h
  exact ⟨.leaf c, mapM_singleton hc⟩

mutual
theorem criteria_of_ofGroup (g : Group) {p : Predicate} (h : ofGroup r g = .ok p) :
    p.IsJoined ∧ g.conditions.mapM (criterionOf r) = .ok p.criteria := by
  match g with
  | ⟨connective, operands, joints, right⟩ =>
    rw [ofGroup] at h
    split at h
    · cases h
    · next hfault =>
      obtain ⟨ps, hps, h⟩ := bind_eq_ok_iff.mp h
      obtain ⟨qs, hqs, h⟩ := bind_eq_ok_iff.mp h
      cases h
      obtain ⟨hjoined, hcriteria⟩ := criteria_of_ofOperands operands hps
      obtain ⟨hjoined', hcriteria'⟩ := criteria_of_ofRightSide right hqs
      have hne : ps ++ qs ≠ [] := by
        have hlength := length_of_ofOperands hps
        rintro hnil
        obtain ⟨rfl, -⟩ := List.append_eq_nil_iff.mp hnil
        rw [List.eq_nil_of_length_eq_zero hlength.symm] at hfault
        cases hfault
      refine ⟨.chain hne (List.forall_mem_append.mpr ⟨hjoined, hjoined'⟩), ?_⟩
      rw [Predicate.criteria_chain, List.flatMap_append, Group.conditions]
      exact mapM_append hcriteria hcriteria'
termination_by structural g

theorem criteria_of_ofOperands (os : List Operand) {ps : List Predicate} (h : ofOperands r os = .ok ps) :
    (∀ p ∈ ps, p.IsJoined) ∧
      (Group.operandConditions os).mapM (criterionOf r) = .ok (ps.flatMap Predicate.criteria) := by
  match os with
  | [] =>
    cases h
    exact ⟨nofun, rfl⟩
  | o :: rest =>
    rw [ofOperands] at h
    obtain ⟨p, hp, h⟩ := bind_eq_ok_iff.mp h
    obtain ⟨ps, hps, h⟩ := bind_eq_ok_iff.mp h
    cases h
    obtain ⟨hjoined, hcriteria⟩ := criteria_of_ofOperand o hp
    obtain ⟨hjoined', hcriteria'⟩ := criteria_of_ofOperands rest hps
    refine ⟨List.forall_mem_cons.mpr ⟨hjoined, hjoined'⟩, ?_⟩
    rw [Group.operandConditions, List.flatMap_cons]
    exact mapM_append hcriteria hcriteria'
termination_by structural os

theorem criteria_of_ofOperand (o : Operand) {p : Predicate} (h : ofOperand r o = .ok p) :
    p.IsJoined ∧ o.conditions.mapM (criterionOf r) = .ok p.criteria := by
  match o with
  | .condition c => exact criteria_of_ofCondition h
  | .group g => exact criteria_of_ofGroup g h
termination_by structural o

theorem criteria_of_ofRightSide (right : Option Group) {ps : List Predicate} (h : ofRightSide r right = .ok ps) :
    (∀ p ∈ ps, p.IsJoined) ∧
      (Group.rightConditions right).mapM (criterionOf r) = .ok (ps.flatMap Predicate.criteria) := by
  match right with
  | none =>
    cases h
    exact ⟨nofun, rfl⟩
  | some g =>
    rw [ofRightSide] at h
    obtain ⟨p, hp, h⟩ := bind_eq_ok_iff.mp h
    cases h
    obtain ⟨hjoined, hcriteria⟩ := criteria_of_ofGroup g hp
    refine ⟨List.forall_mem_singleton.mpr hjoined, ?_⟩
    rw [Group.rightConditions, List.flatMap_cons, List.flatMap_nil, List.append_nil]
    exact hcriteria
termination_by structural right
end

theorem criteria_of_ofConditions {ds : List Condition} {ps : List Predicate} (h : ofConditions r ds = .ok ps) :
    (∀ p ∈ ps, p.IsJoined) ∧ ds.mapM (criterionOf r) = .ok (ps.flatMap Predicate.criteria) := by
  induction ds generalizing ps with
  | nil =>
    cases h
    exact ⟨nofun, rfl⟩
  | cons d ds ih =>
    rw [ofConditions] at h
    obtain ⟨p, hp, h⟩ := bind_eq_ok_iff.mp h
    obtain ⟨ps, hps, h⟩ := bind_eq_ok_iff.mp h
    cases h
    obtain ⟨hjoined, hcriteria⟩ := criteria_of_ofCondition hp
    obtain ⟨hjoined', hcriteria'⟩ := ih hps
    refine ⟨List.forall_mem_cons.mpr ⟨hjoined, hjoined'⟩, ?_⟩
    rw [List.flatMap_cons, ← List.singleton_append]
    exact mapM_append hcriteria hcriteria'

/-- A compiled filter has the criteria of its conditions, in order. -/
theorem criteria_of_ofFilter {f : Filter} {p : Predicate} (h : ofFilter r f = .ok p) :
    (p = .always ∨ p.IsJoined) ∧ f.conditions.mapM (criterionOf r) = .ok p.criteria := by
  cases f with
  | empty =>
    cases h
    exact ⟨.inl rfl, rfl⟩
  | simple ds =>
    rw [ofFilter, map_eq_ok_iff] at h
    obtain ⟨ps, hps, rfl⟩ := h
    obtain ⟨hjoined, hcriteria⟩ := criteria_of_ofConditions hps
    refine ⟨?_, ?_⟩
    · cases ps with
      | nil => exact .inl rfl
      | cons p ps => exact .inr (.chain (List.cons_ne_nil p ps) hjoined)
    · rw [Predicate.conjunction, Predicate.criteria_chain]
      exact hcriteria
  | complex g =>
    obtain ⟨hjoined, hcriteria⟩ := criteria_of_ofGroup g h
    exact ⟨.inr hjoined, hcriteria⟩

/-- Every criterion of a compiled filter is that of one of its conditions. -/
theorem exists_condition_of_criteria {f : Filter} {p : Predicate} (h : ofFilter r f = .ok p) {c : Criterion}
    (hc : c ∈ p.criteria) : ∃ d ∈ f.conditions, ∃ k, r d.field = .ok k ∧ d.criterion k = .ok c := by
  obtain ⟨d, hd, hdc⟩ := exists_of_mem_mapM (criteria_of_ofFilter h).2 hc
  obtain ⟨k, hk, hdc⟩ := bind_eq_ok_iff.mp hdc
  exact ⟨d, hd, k, hk, hdc⟩

end Conversion

end RowFilter
