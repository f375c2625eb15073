import Mathlib.Data.List.Perm.Basic
import Mathlib.Logic.Relation
import RowFilter.Proofs.Conversion.Places
import RowFilter.Proofs.Predicate.Expansion

/-! Order within filters. Conditions of a list, and operands of a group with neither connectives of its own for its
    joints nor a right side, may stand in any order: the filter compiles or not as before, and the predicate has the
    same truth on every row, unknown included. -/

namespace RowFilter

open Success Conversion

variable {r : String → Except FilterError Kind}

/-! ### Predicates with the same truth -/

/-- The predicates have the same truth on every row. -/
def Predicate.Equivalent (p q : Predicate) : Prop :=
  ∀ (like : String → String → Bool) (row : Json), p.truth like row = q.truth like row

theorem Predicate.isCongruence_equivalent : IsCongruence Equivalent := by
  refine ⟨fun _ _ _ => rfl, fun c _ _ _ _ hp hq like row => ?_⟩
  rw [truth, truth, hp like row, hq like row]

theorem Predicate.equivalent_chain_of_perm (c : Connective) {ps qs : List Predicate} (h : ps.Perm qs) :
    (chain (fun _ => c) ps).Equivalent (chain (fun _ => c) qs) := by
  intro like row
  by_cases hne : ps = []
  · subst hne
    rw [h.nil_eq]
  · have hne' : qs ≠ [] := fun hqs => hne (hqs ▸ h).eq_nil
    rw [truth_chain c hne, truth_chain c hne']
    exact Truth.joined_perm c (h.map _)

/-! ### Steps -/

/-- The one filter has the conditions of its list, or the operands of one of its groups, in another order. -/
inductive Filter.Reorders : Filter → Filter → Prop
  | conditions {ds ds' : List Condition} : ds.Perm ds' → Reorders (.simple ds) (.simple ds')
  | operands (k : Group.Context) (c : Connective) {os os' : List Operand} : os.Perm os' →
      Reorders (.complex (k.fill (.uniform c os))) (.complex (k.fill (.uniform c os')))

/-- The filters differ in the order within lists and plain groups only, at any number of places. -/
def Filter.Reordered : Filter → Filter → Prop :=
  Relation.ReflTransGen Reorders

theorem Filter.Reorders.symm {f f' : Filter} (h : f.Reorders f') : f'.Reorders f := by
  cases h with
  | conditions h => exact .conditions h.symm
  | operands k c h => exact .operands k c h.symm

theorem Filter.Reordered.symm {f f' : Filter} (h : f.Reordered f') : f'.Reordered f := by
  induction h with
  | refl => exact .refl
  | tail _ hstep ih => exact .head hstep.symm ih

namespace Conversion

theorem Yield.perm {os os' : List Operand} (hperm : os.Perm os') {ps : List Predicate} (h : Yield r os ps) :
    ∃ ps', Yield r os' ps' ∧ ps.Perm ps' := by
  obtain ⟨ps', hps', hperm'⟩ := List.perm_comp_forall₂ hperm.symm h
  exact ⟨ps', hps', hperm'.symm⟩

theorem ofGroup_uniform_eq_ok_iff {c : Connective} {os : List Operand} {p : Predicate} :
    ofGroup r (.uniform c os) = .ok p ↔ os ≠ [] ∧ ∃ ps, Yield r os ps ∧ p = .chain (fun _ => c) ps := by
  have haligned : (Group.uniform c os).IsAligned ↔ os ≠ [] := ⟨fun h => h.1, fun h => ⟨h, nofun⟩⟩
  have hparts : (Group.uniform c os).parts = os := List.append_nil os
  rw [ofGroup_eq_ok_iff, haligned, hparts]
  refine and_congr_right fun hne => exists_congr fun ps => and_congr_right fun hps => ?_
  rw [← Yield.chain_eq_leftFold (haligned.mpr hne) (hparts.symm ▸ hps)]
  rfl

theorem entails_uniform_of_perm (c : Connective) {os os' : List Operand} (h : os.Perm os') :
    Operand.Entails r Predicate.Equivalent (.group (.uniform c os)) (.group (.uniform c os')) := by
  intro p hp
  obtain ⟨hne, ps, hps, rfl⟩ := ofGroup_uniform_eq_ok_iff.mp hp
  obtain ⟨ps', hps', hperm⟩ := hps.perm h
  have hne' : os' ≠ [] := fun hos => hne (hos ▸ h).eq_nil
  exact ⟨_, ofGroup_uniform_eq_ok_iff.mpr ⟨hne', ps', hps', rfl⟩, Predicate.equivalent_chain_of_perm c hperm⟩

theorem ofFilter_of_reorders {f f' : Filter} (h : f.Reorders f') {p : Predicate} (hp : ofFilter r f = .ok p) :
    ∃ p', ofFilter r f' = .ok p' ∧ p.Equivalent p' := by
  cases h with
  | @conditions ds ds' h =>
    by_cases hne : ds = []
    · subst hne
      rw [← h.nil_eq]
      exact ⟨p, hp, Predicate.isCongruence_equivalent.refl p⟩
    · have hne' : ds' ≠ [] := fun hds => hne (hds ▸ h).eq_nil
      rw [ofFilter_simple hne] at hp
      rw [ofFilter_simple hne']
      exact entails_uniform_of_perm .and (h.map _) p hp
  | operands k c h =>
    exact k.entails_fill Predicate.isCongruence_equivalent (entails_uniform_of_perm c h) p hp

/-! ### Any number of steps -/

theorem ofFilter_of_reordered {f f' : Filter} (h : f.Reordered f') {p : Predicate}
    (hp : ofFilter r f = .ok p) : ∃ p', ofFilter r f' = .ok p' ∧ p.Equivalent p' := by
  induction h with
  | refl => exact ⟨p, hp, Predicate.isCongruence_equivalent.refl p⟩
  | tail _ hstep ih =>
    obtain ⟨q, hq, hpq⟩ := ih
    obtain ⟨q', hq', hqq'⟩ := ofFilter_of_reorders hstep hq
    exact ⟨q', hq', fun like row => (hpq like row).trans (hqq' like row)⟩

end Conversion

/-- However the conditions of a list and the operands of plain groups are put in order, the filter compiles or not,
    and what it compiles to has the same truth on every row. -/
theorem Schema.compile_reordered (s : Schema) (entity : String) {f f' : Filter} (h : f.Reordered f') :
    ((∃ p, s.compile entity f = .ok p) ↔ ∃ p', s.compile entity f' = .ok p') ∧
      ∀ p p', s.compile entity f = .ok p → s.compile entity f' = .ok p' →
        ∀ row, p.truth Pattern.matchText row = p'.truth Pattern.matchText row := by
  refine ⟨⟨?_, ?_⟩, fun p p' hp hp' row => ?_⟩
  · rintro ⟨p, hp⟩
    obtain ⟨p', hp', -⟩ := ofFilter_of_reordered h hp
    exact ⟨p', hp'⟩
  · rintro ⟨p', hp'⟩
    obtain ⟨p, hp, -⟩ := ofFilter_of_reordered h.symm hp'
    exact ⟨p, hp⟩
  · obtain ⟨q, hq, hequivalent⟩ := ofFilter_of_reordered h hp
    obtain rfl := Except.ok.inj (hq.symm.trans hp')
    exact hequivalent Pattern.matchText row

/-- Two plain groups inside one that has connectives of its own and a right side. -/
theorem Schema.compile_reordered_nested :
    let s : Schema := ⟨[("item", [("age", .value .integer), ("name", .value .text)])]⟩
    let old : Operand := .condition ⟨"age", .compare .gt, .number (.integer 9)⟩
    let unnamed : Operand := .condition ⟨"name", .null true, .null⟩
    let f : Filter := .complex ⟨.and, [.group (.uniform .or [old, unnamed]), unnamed], some [.or, .and],
      some (.uniform .and [unnamed, old])⟩
    let f' : Filter := .complex ⟨.and, [.group (.uniform .or [unnamed, old]), unnamed], some [.or, .and],
      some (.uniform .and [old, unnamed])⟩
    f.Reordered f' ∧ ∃ p p', s.compile "item" f = .ok p ∧ s.compile "item" f' = .ok p' ∧ p ≠ p' ∧
      ∀ row, p.truth Pattern.matchText row = p'.truth Pattern.matchText row := by
  intro s old unnamed f f'
  have h : f.Reordered f' := by
    refine .tail (.single (.operands (.operand .and [] .place [unnamed] _ _) .or (.swap unnamed old []))) ?_
    exact .operands (.rightSide .and [.group (.uniform .or [unnamed, old]), unnamed] _ .place) .and
      (.swap old unnamed [])
  obtain ⟨p, p', hp, hp', hne⟩ : ∃ p p', s.compile "item" f = .ok p ∧ s.compile "item" f' = .ok p' ∧ p ≠ p' :=
    ⟨_, _, rfl, rfl, by decide⟩
  exact ⟨h, p, p', hp, hp', hne, (compile_reordered s "item" h).2 p p' hp hp'⟩

end RowFilter
