import Mathlib.Data.List.Nodup
import RowFilter.Proofs.Filter.ReadingOrder

/-! What the members of an object give, one sort of parts at a time. The members with one of the names of a sort are
    at most one, and the part of that sort is what it is read as. -/

namespace RowFilter

open Success

/-- The values of the members with one of the names, in order. -/
def Json.valuesOf (names : List String) (members : List (String × Json)) : List Json :=
  (members.filter fun m => names.contains m.1).map Prod.snd

namespace Decoding

open Json

variable {α β : Type} {names : List String} {members : List (String × Json)} {m : String × Json}

/-! ### Values of members -/

section
variable {read : Json → Except ShapeError β} {values : List Json} {b : β}

theorem valuesOf_cons_of_mem (h : m.1 ∈ names) : valuesOf names (m :: members) = m.2 :: valuesOf names members := by
  have hm : names.contains m.1 = true := List.contains_iff_mem.mpr h
  rw [valuesOf, List.filter_cons, if_pos hm, List.map_cons, valuesOf]

theorem valuesOf_cons_of_not_mem (h : m.1 ∉ names) : valuesOf names (m :: members) = valuesOf names members := by
  have hm : ¬names.contains m.1 = true := mt List.contains_iff_mem.mp h
  rw [valuesOf, List.filter_cons, if_neg hm, valuesOf]

theorem mem_valuesOf (hm : m ∈ members) (h : m.1 ∈ names) : m.2 ∈ valuesOf names members :=
  List.mem_map_of_mem (List.mem_filter.mpr ⟨hm, List.contains_iff_mem.mpr h⟩)

/-- Nothing without a value, and otherwise what the only one is read as. -/
inductive Gives (read : Json → Except ShapeError β) : List Json → Option β → Prop where
  | nothing : Gives read [] none
  | only {j : Json} {b : β} : read j = .ok b → Gives read [j] (some b)

theorem Gives.unique {b? c? : Option β} (h : Gives read values b?) (h' : Gives read values c?) : b? = c? := by
  cases h with
  | nothing =>
    cases h'
    rfl
  | only hb =>
    cases h' with
    | only hc => rw [Except.ok.inj (hb.symm.trans hc)]

theorem gives_some_iff : Gives read values (some b) ↔ ∃ j, values = [j] ∧ read j = .ok b := by
  constructor
  · intro h
    cases h with
    | only hb => exact ⟨_, rfl, hb⟩
  · rintro ⟨j, rfl, hb⟩
    exact .only hb

/-- A part that may be missing is read as null then. -/
theorem gives_getD_iff (read : Json → Except ShapeError β) {d : β} (hnull : read .null = .ok d) :
    (∃ b?, Gives read values b? ∧ b?.getD d = b) ↔
      ∃ j? : Option Json, values = j?.toList ∧ read (j?.getD .null) = .ok b := by
  constructor
  · rintro ⟨_, ⟨⟩ | hb, rfl⟩
    · exact ⟨none, rfl, hnull⟩
    · exact ⟨some _, rfl, hb⟩
  · rintro ⟨j?, rfl, hb⟩
    cases j? with
    | none => exact ⟨none, .nothing, Except.ok.inj (hnull.symm.trans hb)⟩
    | some j => exact ⟨some b, .only hb, rfl⟩

end

/-! ### Sorts of parts -/

/-- The members with one of the names, and no others, give parts of one sort, all under the proper name. -/
structure IsSort (part : String × Json → Option (Part α)) (proper : String) (names : List String)
    (read : Json → Except ShapeError β) (make : β → α) (part? : α → Option β) : Prop where
  part_eq {m : String × Json} : m.1 ∈ names → part m = some (proper, make <$> read m.2)
  other {m : String × Json} {p : Part α} : m.1 ∉ names → part m = some p →
    p.1 ≠ proper ∧ ∀ a, p.2 = .ok a → part? a = none
  part?_make (b : β) : part? (make b) = some b

section
variable {part : String × Json → Option (Part α)} {proper : String} {read : Json → Except ShapeError β}
  {make : β → α} {part? : α → Option β} {as : List α}

/-- Parts that have names of their own are of the sort whose proper name that is. -/
theorem isSort_of_name {name : α → String} (hname : ∀ m k a, part m = some (k, .ok a) → name a = k)
    (hpart : ∀ m, m.1 ∈ names → part m = some (proper, make <$> read m.2))
    (hproper : ∀ m p, part m = some p → p.1 = proper → m.1 ∈ names) (hmake : ∀ b, part? (make b) = some b)
    (hpart? : ∀ a b, part? a = some b → name a = proper) : IsSort part proper names read make part? where
  part_eq := hpart _
  other := by
    intro m p hm hp
    have hne : p.1 ≠ proper := fun h => hm (hproper m p hp h)
    refine ⟨hne, fun a ha => Option.eq_none_iff_forall_ne_some.mpr fun b hb => hne ?_⟩
    rw [← hpart? a b hb]
    exact (hname m p.1 a (by rw [hp, ← ha])).symm
  part?_make := hmake

theorem IsSort.mapM_valuesOf (h : IsSort part proper names read make part?)
    (has : as.map .ok = (members.filterMap part).map Prod.snd) :
    (valuesOf names members).mapM read = .ok (as.filterMap part?) := by
  induction members generalizing as with
  | nil =>
    obtain rfl := List.map_eq_nil_iff.mp has
    rfl
  | cons m members ih =>
    by_cases hm : m.1 ∈ names
    · rw [List.filterMap_cons_some (h.part_eq hm), List.map_cons] at has
      obtain ⟨a, as, rfl, ha, hrest⟩ := List.map_eq_cons_iff.mp has
      obtain ⟨b, hb, rfl⟩ := map_eq_ok_iff.mp ha.symm
      rw [valuesOf_cons_of_mem hm, List.mapM_cons, hb, ok_bind, ih hrest, ok_bind,
        List.filterMap_cons_some (h.part?_make b), pure_eq_ok_iff]
    · rw [valuesOf_cons_of_not_mem hm]
      cases hp : part m with
      | none =>
        rw [List.filterMap_cons_none hp] at has
        exact ih has
      | some p =>
        rw [List.filterMap_cons_some hp, List.map_cons] at has
        obtain ⟨a, as, rfl, ha, hrest⟩ := List.map_eq_cons_iff.mp has
        rw [ih hrest, List.filterMap_cons_none ((h.other hm hp).2 a ha.symm)]

theorem IsSort.count_eq (h : IsSort part proper names read make part?) (members : List (String × Json)) :
    ((members.filterMap part).map Prod.fst).count proper = (valuesOf names members).length := by
  induction members with
  | nil => rfl
  | cons m members ih =>
    by_cases hm : m.1 ∈ names
    · rw [List.filterMap_cons_some (h.part_eq hm), List.map_cons, List.count_cons_self, ih, valuesOf_cons_of_mem hm,
        List.length_cons]
    · rw [valuesOf_cons_of_not_mem hm, ← ih]
      cases hp : part m with
      | none => rw [List.filterMap_cons_none hp]
      | some p => rw [List.filterMap_cons_some hp, List.map_cons, List.count_cons_of_ne (h.other hm hp).1]

/-- Members that are read without a fault give at most one part of each sort. -/
theorem IsSort.gives (h : IsSort part proper names read make part?)
    (has : collect [] (members.filterMap part) = .ok as) :
    Gives read (valuesOf names members) (as.findSome? part?) := by
  obtain ⟨hnodup, -, hparts⟩ := collect_eq_ok_iff.mp has
  have hread := h.mapM_valuesOf hparts
  have hlength : (valuesOf names members).length ≤ 1 := by
    rw [← h.count_eq]
    exact List.nodup_iff_count_le_one.mp hnodup proper
  rw [← List.head?_filterMap]
  cases hvalues : valuesOf names members with
  | nil =>
    rw [hvalues] at hread
    rw [← Except.ok.inj hread]
    exact .nothing
  | cons j rest =>
    rw [hvalues] at hread hlength
    obtain rfl : rest = [] := List.length_eq_zero_iff.mp (by simpa using hlength)
    rw [List.mapM_cons] at hread
    obtain ⟨b, hb, hread⟩ := bind_eq_ok_iff.mp hread
    rw [← Except.ok.inj hread]
    exact .only hb

/-- A member of a sort that at most one is of gives a part without a fault, and no other member gives another one
    under the same name. -/
theorem IsSort.part_ok (h : IsSort part proper names read make part?) {b? : Option β}
    (hgives : Gives read (valuesOf names members) b?) (hm : m ∈ members) (hname : m.1 ∈ names) {p : Part α}
    (hp : part m = some p) : ((members.filterMap part).map Prod.fst).count p.1 ≤ 1 ∧ ∃ a, p.2 = .ok a := by
  have hvalue := mem_valuesOf hm hname
  rw [h.part_eq hname] at hp
  obtain rfl := Option.some.inj hp
  rw [h.count_eq]
  cases hgives' : valuesOf names members with
  | nil =>
    rw [hgives'] at hvalue
    cases hvalue
  | cons j rest =>
    rw [hgives'] at hvalue hgives
    cases hgives with
    | @only _ b hb =>
      obtain hj : m.2 = j := List.mem_singleton.mp hvalue
      refine ⟨Nat.le_refl 1, make b, ?_⟩
      rw [hj, hb]
      rfl

/-- All parts are read if none of them has a fault or stands under the name of another one. -/
theorem exists_collect (h : ∀ m ∈ members, ∀ p, part m = some p →
      ((members.filterMap part).map Prod.fst).count p.1 ≤ 1 ∧ ∃ a, p.2 = .ok a) :
    ∃ as, collect [] (members.filterMap part) = .ok as := by
  have hparts : ∀ p ∈ members.filterMap part, ∃ a, p.2 = .ok a := by
    intro p hp
    obtain ⟨m, hm, hp⟩ := List.mem_filterMap.mp hp
    exact (h m hm p hp).2
  have hnodup : ((members.filterMap part).map Prod.fst).Nodup := by
    refine List.nodup_iff_count_eq_one.mpr fun k hk => ?_
    obtain ⟨p, hp, rfl⟩ := List.mem_map.mp hk
    obtain ⟨m, hm, hp⟩ := List.mem_filterMap.mp hp
    exact Nat.le_antisymm (h m hm p hp).1 (List.one_le_count_iff.mpr hk)
  obtain ⟨as, has⟩ : ∃ as : List α, as.map .ok = (members.filterMap part).map Prod.snd := by
    generalize members.filterMap part = parts at hparts
    induction parts with
    | nil => exact ⟨[], rfl⟩
    | cons p parts ih =>
      obtain ⟨⟨a, ha⟩, hparts⟩ := List.forall_mem_cons.mp hparts
      obtain ⟨as, has⟩ := ih hparts
      exact ⟨a :: as, by rw [List.map_cons, List.map_cons, has, ha]⟩
  exact ⟨as, collect_eq_ok_iff.mpr ⟨hnodup, nofun, has⟩⟩

end

/-! ### Conditions -/

/-- The field that a part holds. -/
def ConditionPart.field? : ConditionPart → Option String
  | field s => some s
  | _ => none

/-- The operator that a part holds. -/
def ConditionPart.operator? : ConditionPart → Option Operator
  | operator o => some o
  | _ => none

/-- The value that a part holds. -/
def ConditionPart.value? : ConditionPart → Option Json
  | value j => some j
  | _ => none

theorem assembleCondition_eq_ok_iff {parts : List ConditionPart} {c : Condition} : assembleCondition parts = .ok c ↔
    parts.findSome? ConditionPart.field? = some c.field ∧ parts.findSome? ConditionPart.operator? = some c.operator ∧
      (parts.findSome? ConditionPart.value?).getD .null = c.value := by
  obtain ⟨name, o, v⟩ := c
  unfold assembleCondition
  dsimp only
  constructor
  · intro h
    split at h
    · cases h
    · cases h
    · next hfield hoperator =>
      cases h
      exact ⟨hfield, hoperator, rfl⟩
  · rintro ⟨hfield, hoperator, rfl⟩
    split
    · next hnone => cases hfield.symm.trans hnone
    · next hnone _ => cases hoperator.symm.trans hnone
    · next hfield' hoperator' =>
      cases hfield.symm.trans hfield'
      cases hoperator.symm.trans hoperator'
      rfl

theorem conditionPart_cases {m : String × Json} {p : Part ConditionPart} (h : conditionPart m.1 m.2 = some p) :
    p.1 = m.1 ∧ (m.1 = "field" ∨ m.1 = "operator" ∨ m.1 = "value") := by
  unfold conditionPart at h
  split at h
  · next hname =>
    cases h
    exact ⟨hname.symm, .inl hname⟩
  · split at h
    · next hname =>
      cases h
      exact ⟨hname.symm, .inr (.inl hname)⟩
    · split at h
      · next hname =>
        cases h
        exact ⟨hname.symm, .inr (.inr hname)⟩
      · cases h

theorem isSort_conditionPart {proper : String} {read : Json → Except ShapeError β} {make : β → ConditionPart}
    {part? : ConditionPart → Option β} (hpart : ∀ j, conditionPart proper j = some (proper, make <$> read j))
    (hmake : ∀ b, part? (make b) = some b) (hpart? : ∀ a b, part? a = some b → a.name = proper) :
    IsSort (fun m => conditionPart m.1 m.2) proper [proper] read make part? := by
  refine isSort_of_name (fun _ _ _ => name_conditionPart) ?_ ?_ hmake hpart?
  · rintro ⟨name, j⟩ hname
    obtain rfl : name = proper := List.mem_singleton.mp hname
    exact hpart j
  · intro m p hp hproper
    exact List.mem_singleton.mpr ((conditionPart_cases hp).1.symm.trans hproper)

theorem isSort_field :
    IsSort (fun m => conditionPart m.1 m.2) "field" ["field"] string .field ConditionPart.field? :=
  isSort_conditionPart (fun _ => rfl) (fun _ => rfl) fun a _ h => by
    cases a <;> first | rfl | cases h

theorem isSort_operator :
    IsSort (fun m => conditionPart m.1 m.2) "operator" ["operator"] operator .operator ConditionPart.operator? :=
  isSort_conditionPart (fun _ => rfl) (fun _ => rfl) fun a _ h => by
    cases a <;> first | rfl | cases h

theorem isSort_value : IsSort (fun m => conditionPart m.1 m.2) "value" ["value"]
    (fun j => .ok j.canonical) .value ConditionPart.value? :=
  isSort_conditionPart (fun _ => rfl) (fun _ => rfl) fun a _ h => by
    cases a <;> first | rfl | cases h

/-- The parts of a condition that is an object. -/
theorem condition_object_iff {c : Condition} : condition .written (.object members) = .ok c ↔
    Gives string (valuesOf ["field"] members) (some c.field) ∧
    Gives operator (valuesOf ["operator"] members) (some c.operator) ∧
    ∃ v?, Gives (fun j => .ok j.canonical) (valuesOf ["value"] members) v? ∧ v?.getD .null = c.value := by
  have hgather : gather .written (members.map fun m => (m.1, conditionPart m.1 m.2)) =
      collect [] (members.filterMap fun m => conditionPart m.1 m.2) := by
    rw [gather, MemberOrder.arrange, List.filterMap_map]
    rfl
  rw [condition, hgather, bind_eq_ok_iff]
  constructor
  · rintro ⟨parts, hparts, hc⟩
    obtain ⟨hfield, hoperator, hvalue⟩ := assembleCondition_eq_ok_iff.mp hc
    rw [← hfield, ← hoperator]
    exact ⟨isSort_field.gives hparts, isSort_operator.gives hparts, _, isSort_value.gives hparts, hvalue⟩
  · rintro ⟨hfield, hoperator, v?, hvalue, hv⟩
    obtain ⟨parts, hparts⟩ : ∃ parts, collect [] (members.filterMap fun m => conditionPart m.1 m.2) = .ok parts := by
      refine exists_collect fun m hm p hp => ?_
      obtain ⟨-, h | h | h⟩ := conditionPart_cases hp
      · exact isSort_field.part_ok hfield hm (List.mem_singleton.mpr h) hp
      · exact isSort_operator.part_ok hoperator hm (List.mem_singleton.mpr h) hp
      · exact isSort_value.part_ok hvalue hm (List.mem_singleton.mpr h) hp
    refine ⟨parts, hparts, assembleCondition_eq_ok_iff.mpr ⟨?_, ?_, ?_⟩⟩
    · exact (isSort_field.gives hparts).unique hfield
    · exact (isSort_operator.gives hparts).unique hoperator
    · rw [(isSort_value.gives hparts).unique hvalue, hv]

/-! ### Groups -/

/-- The connective that a part holds. -/
def GroupPart.connective? : GroupPart → Option Connective
  | connective c => some c
  | _ => none

/-- The operands that a part holds. -/
def GroupPart.operands? : GroupPart → Option (List Operand)
  | operands l => some l
  | _ => none

/-- The connectives of joints that a part holds. -/
def GroupPart.joints? : GroupPart → Option (Option (List Connective))
  | joints cs => some cs
  | _ => none

/-- The right side that a part holds. -/
def GroupPart.rightSide? : GroupPart → Option (Option Group)
  | rightSide g => some g
  | _ => none

theorem assembleGroup_eq_ok_iff {parts : List GroupPart} {g : Group} : assembleGroup parts = .ok g ↔
    parts.findSome? GroupPart.connective? = some g.connective ∧
      parts.findSome? GroupPart.operands? = some g.operands ∧
      (parts.findSome? GroupPart.joints?).getD none = g.joints ∧
      (parts.findSome? GroupPart.rightSide?).getD none = g.rightSide := by
  obtain ⟨c, l, cs, r⟩ := g
  unfold assembleGroup
  dsimp only
  constructor
  · intro h
    split at h
    · cases h
    · cases h
    · next hconnective hoperands =>
      cases h
      exact ⟨hconnective, hoperands, rfl, rfl⟩
  · rintro ⟨hconnective, hoperands, rfl, rfl⟩
    split
    · next hnone => cases hconnective.symm.trans hnone
    · next hnone _ => cases hoperands.symm.trans hnone
    · next hconnective' hoperands' =>
      cases hconnective.symm.trans hconnective'
      cases hoperands.symm.trans hoperands'
      rfl

theorem isSort_groupPart {proper : String} {read : Json → Except ShapeError β} {make : β → GroupPart}
    {part? : GroupPart → Option β}
    (hpart : ∀ name ∈ names, ∀ j, (groupPart .written (name, j)).2 = some (proper, make <$> read j))
    (hnames : ∀ name j part, (groupPart .written (name, j)).2 = some (proper, part) → name ∈ names)
    (hmake : ∀ b, part? (make b) = some b) (hpart? : ∀ a b, part? a = some b → a.name = proper) :
    IsSort (fun m => (groupPart .written m).2) proper names read make part? := by
  refine isSort_of_name (fun _ _ _ => name_groupPart) (fun m hm => hpart m.1 hm m.2) ?_ hmake hpart?
  rintro ⟨name, j⟩ ⟨k, part⟩ hp h
  obtain rfl : k = proper := h
  exact hnames name j part hp

theorem isSort_connective : IsSort (fun m => (groupPart .written m).2) "operator" ["operator", "groupOperator"]
    connective .connective GroupPart.connective? := by
  refine isSort_groupPart ?_ (fun name j part h => ?_) (fun _ => rfl) fun a _ h => ?_
  · exact List.forall_mem_cons.mpr ⟨fun _ => rfl, List.forall_mem_singleton.mpr fun _ => rfl⟩
  · have hcases := groupPart_cases h
    simp_all
  · cases a <;> first | rfl | cases h

theorem isSort_operands : IsSort (fun m => (groupPart .written m).2) "operations" ["operations", "groupOperations"]
    operands .operands GroupPart.operands? := by
  refine isSort_groupPart ?_ (fun name j part h => ?_) (fun _ => rfl) fun a _ h => ?_
  · exact List.forall_mem_cons.mpr ⟨fun _ => rfl, List.forall_mem_singleton.mpr fun _ => rfl⟩
  · have hcases := groupPart_cases h
    simp_all
  · cases a <;> first | rfl | cases h

theorem isSort_joints : IsSort (fun m => (groupPart .written m).2) "nonPriorityGroupOperators"
    ["nonPriorityGroupOperators", "nonPriorityOperators"] joints .joints GroupPart.joints? := by
  refine isSort_groupPart ?_ (fun name j part h => ?_) (fun _ => rfl) fun a _ h => ?_
  · exact List.forall_mem_cons.mpr ⟨fun _ => rfl, List.forall_mem_singleton.mpr fun _ => rfl⟩
  · have hcases := groupPart_cases h
    simp_all
  · cases a <;> first | rfl | cases h

theorem isSort_rightSide : IsSort (fun m => (groupPart .written m).2) "rightSideOperands" ["rightSideOperands"]
    (rightSide .written) .rightSide GroupPart.rightSide? := by
  refine isSort_groupPart ?_ (fun name j part h => ?_) (fun _ => rfl) fun a _ h => ?_
  · exact List.forall_mem_singleton.mpr fun _ => rfl
  · have hcases := groupPart_cases h
    simp_all
  · cases a <;> first | rfl | cases h

/-- The parts of a group that is an object. -/
theorem group_object_iff {g : Group} : group .written (.object members) = .ok g ↔
    Gives connective (valuesOf ["operator", "groupOperator"] members) (some g.connective) ∧
    Gives operands (valuesOf ["operations", "groupOperations"] members) (some g.operands) ∧
    (∃ cs?, Gives joints (valuesOf ["nonPriorityGroupOperators", "nonPriorityOperators"] members) cs? ∧
      cs?.getD none = g.joints) ∧
    ∃ r?, Gives (rightSide .written) (valuesOf ["rightSideOperands"] members) r? ∧ r?.getD none = g.rightSide := by
  have hgather : gather .written (groupParts .written members) =
      collect [] (members.filterMap fun m => (groupPart .written m).2) := by
    rw [gather, MemberOrder.arrange, groupParts_eq_map, List.filterMap_map]
    rfl
  rw [group, groupOfParts, hgather, bind_eq_ok_iff]
  constructor
  · rintro ⟨parts, hparts, hg⟩
    obtain ⟨hconnective, hoperands, hjoints, hright⟩ := assembleGroup_eq_ok_iff.mp hg
    rw [← hconnective, ← hoperands]
    exact ⟨isSort_connective.gives hparts, isSort_operands.gives hparts, ⟨_, isSort_joints.gives hparts, hjoints⟩,
      _, isSort_rightSide.gives hparts, hright⟩
  · rintro ⟨hconnective, hoperands, ⟨cs?, hjoints, hcs⟩, r?, hright, hr⟩
    obtain ⟨parts, hparts⟩ : ∃ parts,
        collect [] (members.filterMap fun m => (groupPart .written m).2) = .ok parts := by
      refine exists_collect fun m hm p hp => ?_
      obtain ⟨-, h, -⟩ | ⟨-, h, -⟩ | ⟨-, h, -⟩ | ⟨-, h, -⟩ := groupPart_cases hp
      · exact isSort_connective.part_ok hconnective hm (List.mem_pair.mpr h) hp
      · exact isSort_operands.part_ok hoperands hm (List.mem_pair.mpr h) hp
      · exact isSort_joints.part_ok hjoints hm (List.mem_pair.mpr h) hp
      · exact isSort_rightSide.part_ok hright hm (List.mem_singleton.mpr h) hp
    refine ⟨parts, hparts, assembleGroup_eq_ok_iff.mpr ⟨?_, ?_, ?_, ?_⟩⟩
    · exact (isSort_connective.gives hparts).unique hconnective
    · exact (isSort_operands.gives hparts).unique hoperands
    · rw [(isSort_joints.gives hparts).unique hjoints, hcs]
    · rw [(isSort_rightSide.gives hparts).unique hright, hr]

end Decoding

end RowFilter
