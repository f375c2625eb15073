import RowFilter.Conversion.Backward
import RowFilter.Proofs.Success

/-! What a group in the making stands for. Its joints match its operands and its right side, and each
    operand or group that is joined to it joins one predicate to its own, however the group has to be
    wrapped for it. So the finished group gives back the tree along whose left spine it was made. -/

namespace RowFilter

open Success

/-! ### Chains of predicates -/

namespace Predicate

theorem chainFrom_append (joins : Nat → Connective) (i : Nat) (p : Predicate) (ps : List Predicate)
    (q : Predicate) :
    chainFrom joins i p (ps ++ [q]) = join (joins (i + ps.length)) (chainFrom joins i p ps) q := by
  induction ps generalizing i p with
  | nil => rfl
  | cons r ps ih =>
    rw [List.cons_append, chainFrom, ih, chainFrom, List.length_cons, Nat.add_assoc, Nat.add_comm 1]

theorem chainFrom_congr {joins joins' : Nat → Connective} {i : Nat} {p : Predicate} {ps : List Predicate}
    (h : ∀ j, j < i + ps.length → joins j = joins' j) : chainFrom joins i p ps = chainFrom joins' i p ps := by
  induction ps generalizing i p with
  | nil => rfl
  | cons q ps ih =>
    rw [chainFrom, chainFrom, h i (by simp)]
    refine ih fun j hj => h j ?_
    rw [List.length_cons]
    omega

theorem chain_concat (c : Connective) {ps : List Predicate} (hne : ps ≠ []) (q : Predicate) :
    chain (fun _ => c) (ps ++ [q]) = join c (chain (fun _ => c) ps) q := by
  cases ps with
  | nil => exact absurd rfl hne
  | cons p ps => exact chainFrom_append (fun _ => c) 0 p ps q

/-- Only the connectives between predicates of a chain matter. -/
theorem chain_congr {joins joins' : Nat → Connective} {ps : List Predicate}
    (h : ∀ j, j + 1 < ps.length → joins j = joins' j) : chain joins ps = chain joins' ps := by
  cases ps with
  | nil => rfl
  | cons p ps =>
    refine chainFrom_congr fun j hj => h j ?_
    rw [List.length_cons]
    omega

/-- A chain with its connectives listed grows by one connective and one predicate at a time. -/
theorem chain_append {cs : List Connective} {ps : List Predicate} (h : ps.length = cs.length + 1)
    (c : Connective) (q : Predicate) : chain (fun i => (cs ++ [c])[i]?.getD .and) (ps ++ [q]) =
      join c (chain (fun i => cs[i]?.getD .and) ps) q := by
  cases ps with
  | nil => cases h
  | cons p ps =>
    have hlength : ps.length = cs.length := Nat.succ.inj h
    rw [List.cons_append, chain, chainFrom_append, Nat.zero_add, hlength, List.getElem?_concat_length,
      Option.getD_some, chain]
    congr 1
    refine chainFrom_congr fun j hj => ?_
    rw [List.getElem?_append_left (by omega)]

end Predicate

open Conversion

variable {r : String → Except FilterError Kind}

/-! ### Operands -/

namespace Conversion

theorem length_of_ofOperands {os : List Operand} {ps : List Predicate} (h : ofOperands r os = .ok ps) :
    ps.length = os.length := by
  induction os generalizing ps with
  | nil =>
    rw [ofOperands, pure_eq_ok_iff] at h
    rw [← h]
    rfl
  | cons o os ih =>
    rw [ofOperands, bind_eq_ok_iff] at h
    obtain ⟨p, -, h⟩ := h
    rw [bind_eq_ok_iff] at h
    obtain ⟨qs, hqs, h⟩ := h
    cases h
    rw [List.length_cons, List.length_cons, ih hqs]

theorem length_of_ofRightSide {right : Option Group} {qs : List Predicate} (h : ofRightSide r right = .ok qs) :
    qs.length = if right.isSome then 1 else 0 := by
  cases right with
  | none =>
    rw [ofRightSide, pure_eq_ok_iff] at h
    rw [← h]
    rfl
  | some g =>
    rw [ofRightSide, bind_eq_ok_iff] at h
    obtain ⟨p, -, h⟩ := h
    cases h
    rfl

theorem ofOperands_append (os : List Operand) (o : Operand) : ofOperands r (os ++ [o]) = do
    let ps ← ofOperands r os
    let p ← ofOperand r o
    return ps ++ [p] := by
  induction os with
  | nil =>
    rw [List.nil_append, ofOperands, ofOperands]
    rfl
  | cons o' os ih =>
    rw [List.cons_append, ofOperands, ih, ofOperands]
    cases ofOperand r o' with
    | error e => rfl
    | ok p' =>
      cases ofOperands r os with
      | error e => rfl
      | ok ps => cases ofOperand r o <;> rfl

theorem ofGroup_uniform (c : Connective) {os : List Operand} (hne : os ≠ []) :
    ofGroup r (.uniform c os) = Predicate.chain (fun _ => c) <$> ofOperands r os := by
  have hfault : (Group.uniform c os).fault? = none := by
    unfold Group.fault? Group.uniform
    rw [List.isEmpty_eq_false_iff.mpr hne]
    rfl
  unfold Group.uniform at hfault ⊢
  rw [ofGroup]
  simp only [hfault, ofRightSide]
  cases ofOperands r os with
  | error e => rfl
  | ok ps =>
    simp only [ok_bind, pure_bind, List.append_nil]
    rfl

end Conversion

/-! ### Groups in the making -/

namespace PartialGroup

theorem getElem?_of_isUniform {cs : List Connective} (h : isUniform cs = true) {i : Nat} (hi : i < cs.length) :
    cs[i]? = cs.head? := by
  induction cs generalizing i with
  | nil => cases hi
  | cons c cs ih =>
    cases i with
    | zero => rfl
    | succ i =>
      cases cs with
      | nil => exact absurd (Nat.lt_of_succ_lt_succ hi) (Nat.not_lt_zero i)
      | cons d cs =>
        rw [isUniform, Bool.and_eq_true, beq_iff_eq] at h
        obtain ⟨rfl, h⟩ := h
        rw [List.getElem?_cons_succ, ih h (Nat.lt_of_succ_lt_succ hi)]
        rfl

/-- A group in the making has an operand, and a connective for every joint. -/
structure IsBalanced (g : PartialGroup) : Prop where
  operands_ne_nil : g.operands ≠ []
  length_joints : g.joints.length = g.finish.jointCount

/-- The predicate of a group in the making. -/
def meaning (r : String → Except FilterError Kind) (g : PartialGroup) : Except FilterError Predicate := do
  let ps ← ofOperands r g.operands
  let qs ← ofRightSide r g.rightSide
  return Predicate.chain (fun i => g.joints[i]?.getD .and) (ps ++ qs)

/-- The finished group has the connectives of the group in the making, listed or not. -/
theorem connectiveAt_finish {g : PartialGroup} {i : Nat} (hi : i < g.joints.length) :
    g.finish.connectiveAt i = g.joints[i]?.getD .and := by
  unfold Group.connectiveAt finish
  cases hu : isUniform g.joints with
  | true =>
    rw [getElem?_of_isUniform hu hi]
    rfl
  | false =>
    simp only [Bool.false_eq_true, if_false, List.getElem?_eq_getElem hi, Option.getD_some]

theorem IsBalanced.fault?_finish {g : PartialGroup} (h : g.IsBalanced) : g.finish.fault? = none := by
  have hne : g.finish.operands.isEmpty = false := List.isEmpty_eq_false_iff.mpr h.operands_ne_nil
  unfold Group.fault?
  rw [hne]
  cases hu : isUniform g.joints with
  | true => simp [finish, hu]
  | false =>
    have hjoints : g.finish.joints = some g.joints := by simp [finish, hu]
    rw [hjoints]
    simp [h.length_joints]

/-- The finished group has the predicate of the group in the making. -/
theorem IsBalanced.ofGroup_finish {g : PartialGroup} (h : g.IsBalanced) : ofGroup r g.finish = g.meaning r := by
  have hfault := h.fault?_finish
  have hlength := h.length_joints
  unfold finish at hfault
  rw [finish, ofGroup]
  simp only [hfault, meaning]
  cases hps : ofOperands r g.operands with
  | error e => rfl
  | ok ps =>
    cases hqs : ofRightSide r g.rightSide with
    | error e => rfl
    | ok qs =>
      refine congrArg Except.ok (Predicate.chain_congr fun i hi => connectiveAt_finish ?_)
      rw [List.length_append, length_of_ofOperands hps, length_of_ofRightSide hqs] at hi
      have hpos := List.length_pos_iff.mpr h.operands_ne_nil
      rw [hlength]
      change i < g.operands.length - 1 + if g.rightSide.isSome then 1 else 0
      omega

/-! ### Joining -/

theorem jointCount_finish (g : PartialGroup) :
    g.finish.jointCount = g.operands.length - 1 + if g.rightSide.isSome then 1 else 0 := rfl

theorem isBalanced_single (o : Operand) : (single o).IsBalanced :=
  ⟨List.cons_ne_nil o [], rfl⟩

theorem meaning_single (o : Operand) : (single o).meaning r = ofOperand r o := by
  unfold meaning single
  rw [ofOperands, ofOperands, ofRightSide]
  cases ofOperand r o <;> rfl

theorem IsBalanced.push {g : PartialGroup} (h : g.IsBalanced) (c : Connective) (o : Operand) :
    (g.push c o).IsBalanced := by
  have hpos := List.length_pos_iff.mpr h.operands_ne_nil
  have hlength := h.length_joints
  unfold PartialGroup.push
  split
  · next hright =>
    refine ⟨by simp, ?_⟩
    simp only [jointCount_finish, hright, List.length_append, List.length_singleton] at hlength ⊢
    omega
  · exact ⟨by simp, rfl⟩

theorem IsBalanced.nest {g : PartialGroup} (h : g.IsBalanced) (c : Connective) (right : Group) :
    (g.nest c right).IsBalanced := by
  have hlength := h.length_joints
  unfold PartialGroup.nest
  split
  · next hright =>
    refine ⟨h.operands_ne_nil, ?_⟩
    simp only [jointCount_finish, hright, List.length_append, List.length_singleton] at hlength ⊢
    simpa using hlength
  · exact ⟨by simp, rfl⟩

theorem IsBalanced.length_operands {g : PartialGroup} (h : g.IsBalanced) (hright : g.rightSide = none)
    {ps : List Predicate} (hps : ofOperands r g.operands = .ok ps) : ps.length = g.joints.length + 1 := by
  have hpos := List.length_pos_iff.mpr h.operands_ne_nil
  have hlength := h.length_joints
  simp only [jointCount_finish, hright, Option.isSome_none, Bool.false_eq_true, if_false] at hlength
  rw [length_of_ofOperands hps]
  omega

/-- A group with a right side is wrapped before anything is joined to it. -/
theorem meaning_wrapped {g : PartialGroup} (h : g.IsBalanced) (c : Connective) (o : Operand) :
    meaning r ⟨[.group g.finish, o], [c], none⟩ = do
      let p ← g.meaning r
      let q ← ofOperand r o
      return .join c p q := by
  rw [← h.ofGroup_finish]
  unfold meaning
  rw [ofOperands, ofOperand, ofOperands, ofOperands, ofRightSide]
  cases ofGroup r g.finish with
  | error e => rfl
  | ok p => cases ofOperand r o <;> rfl

/-- The operand joined on the right is the right part of the predicate. -/
theorem IsBalanced.meaning_push {g : PartialGroup} (h : g.IsBalanced) (c : Connective) (o : Operand) :
    (g.push c o).meaning r = do
      let p ← g.meaning r
      let q ← ofOperand r o
      return .join c p q := by
  unfold PartialGroup.push
  split
  · next hright =>
    unfold meaning
    rw [ofOperands_append, hright, ofRightSide]
    cases hps : ofOperands r g.operands with
    | error e => rfl
    | ok ps =>
      cases ofOperand r o with
      | error e => rfl
      | ok q =>
        simp only [ok_bind, pure_bind, List.append_nil, Predicate.chain_append (h.length_operands hright hps)]
  · exact meaning_wrapped h c o

/-- The group joined on the right is the right part of the predicate. -/
theorem IsBalanced.meaning_nest {g : PartialGroup} (h : g.IsBalanced) (c : Connective) (right : Group) :
    (g.nest c right).meaning r = do
      let p ← g.meaning r
      let q ← ofGroup r right
      return .join c p q := by
  unfold PartialGroup.nest
  split
  · next hright =>
    unfold meaning
    rw [hright, ofRightSide, ofRightSide]
    cases hps : ofOperands r g.operands with
    | error e => rfl
    | ok ps =>
      cases ofGroup r right with
      | error e => rfl
      | ok q =>
        simp only [ok_bind, pure_bind, List.append_nil, Predicate.chain_append (h.length_operands hright hps)]
  · rw [← h.ofGroup_finish]
    unfold meaning
    rw [ofOperands, ofOperand, ofOperands, ofRightSide]
    cases ofGroup r g.finish with
    | error e => rfl
    | ok p => cases ofGroup r right <;> rfl

end PartialGroup

end RowFilter
