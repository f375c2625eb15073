import RowFilter.Proofs.Conversion.Outcome

/-! Groups at places in filters. A group compiles to the left fold of what its parts compile to, so another group may
    take its place, however deep, wherever this one compiles: the whole then compiles as well, to a predicate that
    corresponds to the former one as those of the two groups correspond. -/

namespace RowFilter

open Success Conversion

variable {r : String → Except FilterError Kind}

/-! ### Parts of groups -/

namespace Group

/-- The operands of a group, its right side as the last one. -/
def parts (g : Group) : List Operand :=
  g.operands ++ g.rightSide.toList.map .group

theorem length_parts (g : Group) : g.parts.length = g.operands.length + if g.rightSide.isSome then 1 else 0 := by
  unfold parts
  cases g.rightSide <;> simp

theorem fault?_eq_none_iff_isAligned {g : Group} : g.fault? = none ↔ g.IsAligned := by
  rw [← head?_ownFaults, List.head?_eq_none_iff, ownFaults_eq_nil_iff]

theorem IsAligned.length_connectives {g : Group} (h : g.IsAligned) : g.connectives.length + 1 = g.parts.length := by
  rw [Group.length_connectives (fault?_eq_none_iff_isAligned.mpr h), jointCount_add_one h.1, length_parts]

theorem connectives_of_length_eq (c : Connective) (joints : Option (List Connective)) (right : Option Group)
    {os os' : List Operand} (h : os.length = os'.length) :
    connectives ⟨c, os, joints, right⟩ = connectives ⟨c, os', joints, right⟩ := by
  unfold connectives jointCount
  rw [h]

theorem IsAligned.of_length_eq {c : Connective} {joints : Option (List Connective)} {right : Option Group}
    {os os' : List Operand} (hlength : os.length = os'.length) (h : IsAligned ⟨c, os, joints, right⟩) :
    IsAligned ⟨c, os', joints, right⟩ := by
  obtain ⟨hne, hjoints⟩ := h
  refine ⟨List.length_pos_iff.mp (hlength ▸ List.length_pos_iff.mpr hne), fun cs hcs => ?_⟩
  rw [hjoints cs hcs, hlength]

end Group

namespace Conversion

/-- The operands compile to the predicates, one by one. -/
def Yield (r : String → Except FilterError Kind) (os : List Operand) (ps : List Predicate) : Prop :=
  List.Forall₂ (fun o p => ofOperand r o = .ok p) os ps

theorem ofOperands_eq_mapM (os : List Operand) : ofOperands r os = os.mapM (ofOperand r) := by
  induction os with
  | nil => rfl
  | cons o os ih => rw [ofOperands, ih, List.mapM_cons]

theorem ofRightSide_eq_mapM (right : Option Group) :
    ofRightSide r right = (right.toList.map .group).mapM (ofOperand r) := by
  cases right with
  | none => rfl
  | some g =>
    rw [ofRightSide, Option.toList_some, List.map_singleton, List.mapM_cons, ofOperand]
    rfl

theorem yield_parts_iff {g : Group} {ps : List Predicate} : Yield r g.parts ps ↔
    ∃ qs, ofOperands r g.operands = .ok qs ∧ ∃ qs', ofRightSide r g.rightSide = .ok qs' ∧ qs ++ qs' = ps := by
  unfold Yield Group.parts
  rw [← mapM_eq_ok_iff_forall₂, List.mapM_append, ← ofOperands_eq_mapM, ← ofRightSide_eq_mapM]
  simp only [bind_eq_ok_iff, pure_eq_ok_iff]

theorem Yield.chain_eq_leftFold {g : Group} {ps : List Predicate} (haligned : g.IsAligned) (h : Yield r g.parts ps) :
    Predicate.chain g.connectiveAt ps = .leftFold g.connectives ps := by
  refine Predicate.chain_eq_leftFold ?_ g.connectiveAt_of_connectives
  rw [haligned.length_connectives]
  exact (List.Forall₂.length_eq h).symm

/-- A group compiles if it is aligned and its parts compile, to the left fold of their predicates. -/
theorem ofGroup_eq_ok_iff {g : Group} {p : Predicate} : ofGroup r g = .ok p ↔
    g.IsAligned ∧ ∃ ps, Yield r g.parts ps ∧ p = .leftFold g.connectives ps := by
  obtain ⟨connective, operands, joints, right⟩ := g
  rw [ofGroup]
  cases hfault : Group.fault? ⟨connective, operands, joints, right⟩ with
  | some e =>
    refine ⟨nofun, fun h => ?_⟩
    rw [Group.fault?_eq_none_iff_isAligned.mpr h.1] at hfault
    cases hfault
  | none =>
    have haligned := Group.fault?_eq_none_iff_isAligned.mp hfault
    constructor
    · intro h
      obtain ⟨qs, hqs, h⟩ := bind_eq_ok_iff.mp h
      obtain ⟨qs', hqs', h⟩ := bind_eq_ok_iff.mp h
      cases h
      have hparts : Yield r (Group.parts ⟨connective, operands, joints, right⟩) (qs ++ qs') :=
        yield_parts_iff.mpr ⟨qs, hqs, qs', hqs', rfl⟩
      exact ⟨haligned, _, hparts, hparts.chain_eq_leftFold haligned⟩
    · rintro ⟨-, ps, hparts, rfl⟩
      rw [← hparts.chain_eq_leftFold haligned]
      obtain ⟨qs, hqs, qs', hqs', rfl⟩ := yield_parts_iff.mp hparts
      simp only at hqs hqs' ⊢
      rw [hqs, hqs']
      rfl

/-! ### Lists of conditions -/

theorem ofOperands_conditions (ds : List Condition) : ofOperands r (ds.map .condition) = ofConditions r ds := by
  induction ds with
  | nil => rfl
  | cons d ds ih => rw [List.map_cons, ofOperands, ih, ofOperand, ofConditions]

/-- A list of conditions compiles as the group that joins them by "and". -/
theorem ofFilter_simple {ds : List Condition} (hne : ds ≠ []) :
    ofFilter r (.simple ds) = ofGroup r (.uniform .and (ds.map .condition)) := by
  rw [ofGroup_uniform .and (by simpa using hne), ofOperands_conditions]
  rfl

end Conversion

/-! ### Correspondence -/

/-- Joins of predicates that are related are related. -/
structure Predicate.IsCongruence (R : Predicate → Predicate → Prop) : Prop where
  refl : ∀ p, R p p
  join : ∀ c {p p' q q'}, R p p' → R q q' → R (.join c p q) (.join c p' q')

namespace Predicate

variable {R : Predicate → Predicate → Prop}

theorem isCongruence_eq : IsCongruence (· = ·) :=
  ⟨fun _ => rfl, fun _ _ _ _ _ hp hq => by rw [hp, hq]⟩

theorem IsCongruence.foldl (hR : IsCongruence R) {ps ps' : List Predicate} (h : List.Forall₂ R ps ps')
    (cs : List Connective) {p p' : Predicate} (hp : R p p') :
    R ((cs.zip ps).foldl (fun q next => .join next.1 q next.2) p)
      ((cs.zip ps').foldl (fun q next => .join next.1 q next.2) p') := by
  induction h generalizing cs p p' with
  | nil => simpa using hp
  | cons hq _ ih =>
    cases cs with
    | nil => exact hp
    | cons c cs => exact ih cs (hR.join c hp hq)

theorem IsCongruence.leftFold (hR : IsCongruence R) {ps ps' : List Predicate} (h : List.Forall₂ R ps ps')
    (cs : List Connective) : R (leftFold cs ps) (leftFold cs ps') := by
  cases h with
  | nil => exact hR.refl .always
  | cons hp hps => exact hR.foldl hps cs hp

end Predicate

/-- Where the one operand compiles the other one does too, to a related predicate. -/
def Operand.Entails (r : String → Except FilterError Kind) (R : Predicate → Predicate → Prop) (o o' : Operand) : Prop :=
  ∀ p, ofOperand r o = .ok p → ∃ p', ofOperand r o' = .ok p' ∧ R p p'

namespace Operand

variable {R : Predicate → Predicate → Prop}

theorem Entails.refl (hR : Predicate.IsCongruence R) (o : Operand) : Entails r R o o :=
  fun p hp => ⟨p, hp, hR.refl p⟩

theorem Entails.forall₂_refl (hR : Predicate.IsCongruence R) (os : List Operand) :
    List.Forall₂ (Entails r R) os os :=
  List.forall₂_same.mpr fun o _ => .refl hR o

theorem Entails.yield {os os' : List Operand} (h : List.Forall₂ (Entails r R) os os') {ps : List Predicate}
    (hps : Yield r os ps) : ∃ ps', Yield r os' ps' ∧ List.Forall₂ R ps ps' := by
  induction h generalizing ps with
  | nil =>
    cases hps
    exact ⟨[], .nil, .nil⟩
  | cons ho _ ih =>
    cases hps with
    | cons hp hps =>
      obtain ⟨p', hp', hrelated⟩ := ho _ hp
      obtain ⟨ps', hps', hrelated'⟩ := ih hps
      exact ⟨p' :: ps', .cons hp' hps', .cons hrelated hrelated'⟩

/-- Groups correspond if they differ in nothing but parts that correspond. -/
theorem Entails.group (hR : Predicate.IsCongruence R) {g g' : Group}
    (hparts : List.Forall₂ (Entails r R) g.parts g'.parts) (hconnectives : g.connectives = g'.connectives)
    (haligned : g.IsAligned → g'.IsAligned) : Entails r R (.group g) (.group g') := by
  intro p hp
  obtain ⟨hg, ps, hps, rfl⟩ := ofGroup_eq_ok_iff.mp hp
  obtain ⟨ps', hps', hrelated⟩ := Entails.yield hparts hps
  refine ⟨.leftFold g'.connectives ps', ofGroup_eq_ok_iff.mpr ⟨haligned hg, ps', hps', rfl⟩, ?_⟩
  rw [hconnectives]
  exact hR.leftFold hrelated g'.connectives

theorem Entails.operand (hR : Predicate.IsCongruence R) {o o' : Operand} (h : Entails r R o o') (c : Connective)
    (before after : List Operand) (joints : Option (List Connective)) (right : Option Group) :
    Entails r R (.group ⟨c, before ++ o :: after, joints, right⟩) (.group ⟨c, before ++ o' :: after, joints, right⟩) := by
  have hoperands : List.Forall₂ (Entails r R) (before ++ o :: after) (before ++ o' :: after) :=
    List.rel_append (forall₂_refl hR before) (.cons h (forall₂_refl hR after))
  have hlength := List.Forall₂.length_eq hoperands
  exact .group hR (List.rel_append hoperands (forall₂_refl hR _)) (Group.connectives_of_length_eq c joints right hlength)
    (Group.IsAligned.of_length_eq hlength)

end Operand

/-! ### Places -/

/-- A group with the place of one group in it left open. -/
inductive Group.Context where
  | place
  | operand (c : Connective) (before : List Operand) (k : Context) (after : List Operand)
      (joints : Option (List Connective)) (right : Option Group)
  | rightSide (c : Connective) (operands : List Operand) (joints : Option (List Connective)) (k : Context)

/-- The group with another one at the open place. -/
def Group.Context.fill (g : Group) : Context → Group
  | place => g
  | operand c before k after joints right => ⟨c, before ++ .group (k.fill g) :: after, joints, right⟩
  | rightSide c operands joints k => ⟨c, operands, joints, some (k.fill g)⟩

theorem Group.Context.entails_fill {R : Predicate → Predicate → Prop} (hR : Predicate.IsCongruence R) {g g' : Group}
    (h : Operand.Entails r R (.group g) (.group g')) (k : Context) :
    Operand.Entails r R (.group (k.fill g)) (.group (k.fill g')) := by
  induction k with
  | place => exact h
  | operand c before k after joints right ih => exact ih.operand hR c before after joints right
  | rightSide c operands joints k ih =>
    exact .group hR (List.rel_append (Operand.Entails.forall₂_refl hR operands) (.cons ih .nil)) rfl id

end RowFilter
