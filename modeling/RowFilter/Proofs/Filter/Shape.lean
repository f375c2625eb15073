import RowFilter.Proofs.Filter.Members

/-! The documents that are filters. Their shape is told part by part, without regard to how it is checked; a document
    whose objects repeat no name is read exactly if it has this shape, and as the filter of its parts. -/

namespace RowFilter

open Success Json

/-! ### Shapes -/

namespace Shape

/-- A text that spells the operator. -/
def IsOperator (j : Json) (o : Operator) : Prop :=
  ∃ s, j = .text s ∧ Operator.ofText? s = some o

/-- A text that spells the connective. -/
def IsConnective (j : Json) (c : Connective) : Prop :=
  ∃ s, j = .text s ∧ Connective.ofText? s = some c

/-- The connectives of single joints, or null for none. -/
inductive AreJoints : Json → Option (List Connective) → Prop where
  | none : AreJoints .null none
  | some {items : List Json} {cs : List Connective} : List.Forall₂ IsConnective items cs →
      AreJoints (.array items) (some cs)

/-- A condition: an object with a field, an operator and maybe a value, or an array of these two or three. -/
inductive IsCondition : Json → Condition → Prop where
  | object {members : List (String × Json)} {name : String} {operator : Json} {o : Operator} {value : Option Json} :
      valuesOf ["field"] members = [.text name] →
      valuesOf ["operator"] members = [operator] → IsOperator operator o →
      valuesOf ["value"] members = value.toList →
      IsCondition (.object members) ⟨name, o, (value.getD .null).canonical⟩
  | array {name : String} {operator : Json} {o : Operator} {value : Option Json} : IsOperator operator o →
      IsCondition (.array (.text name :: operator :: value.toList)) ⟨name, o, (value.getD .null).canonical⟩

/-- An object with one of the names of operations. -/
def HasOperations (j : Json) : Prop :=
  (j.member? "operations").isSome ∨ (j.member? "groupOperations").isSome

mutual
/-- A group: an object with a connective and operations, each under one of its two names, and maybe connectives of
    single joints and a right side, or an array of these two, three or four. -/
inductive IsGroup : Json → Group → Prop where
  | object {members : List (String × Json)} {connective : Json} {operations : List Json} {joints right : Option Json}
      {c : Connective} {l : List Operand} {cs : Option (List Connective)} {r : Option Group} :
      valuesOf ["operator", "groupOperator"] members = [connective] → IsConnective connective c →
      valuesOf ["operations", "groupOperations"] members = [.array operations] →
      List.Forall₂ IsOperand operations l →
      valuesOf ["nonPriorityGroupOperators", "nonPriorityOperators"] members = joints.toList →
      AreJoints (joints.getD .null) cs →
      valuesOf ["rightSideOperands"] members = right.toList → IsRightSide (right.getD .null) r →
      IsGroup (.object members) ⟨c, l, cs, r⟩
  | array {connective : Json} {operations rest : List Json} {c : Connective} {l : List Operand}
      {cs : Option (List Connective)} {r : Option Group} :
      IsConnective connective c → List.Forall₂ IsOperand operations l → rest.length ≤ 2 →
      AreJoints (rest[0]?.getD .null) cs → IsRightSide (rest[1]?.getD .null) r →
      IsGroup (.array (connective :: .array operations :: rest)) ⟨c, l, cs, r⟩

/-- The right side of a group, or null for none. -/
inductive IsRightSide : Json → Option Group → Prop where
  | none : IsRightSide .null none
  | some {j : Json} {g : Group} : IsGroup j g → IsRightSide j (some g)

/-- An operand: a group if it is an object with operations, and otherwise a condition. -/
inductive IsOperand : Json → Operand → Prop where
  | condition {j : Json} {c : Condition} : ¬HasOperations j → IsCondition j c → IsOperand j (.condition c)
  | group {j : Json} {g : Group} : HasOperations j → IsGroup j g → IsOperand j (.group g)
end

/-- A filter: null, an array of conditions, or an object that is a group if it has operations and otherwise a
    condition. -/
inductive IsFilter : Json → Filter → Prop where
  | empty : IsFilter .null .empty
  | conditions {items : List Json} {cs : List Condition} : List.Forall₂ IsCondition items cs →
      IsFilter (.array items) (.simple cs)
  | condition {members : List (String × Json)} {c : Condition} : ¬HasOperations (.object members) →
      IsCondition (.object members) c → IsFilter (.object members) (.simple [c])
  | group {members : List (String × Json)} {g : Group} : HasOperations (.object members) →
      IsGroup (.object members) g → IsFilter (.object members) (.complex g)

end Shape

namespace Decoding

open Shape

variable {j : Json} {members : List (String × Json)} {c : Condition} {g : Group}

/-! ### Texts and lists -/

theorem string_eq_ok_iff {s : String} : string j = .ok s ↔ j = .text s := by
  cases j <;> simp [string]

theorem operator_eq_ok_iff {o : Operator} : operator j = .ok o ↔ IsOperator j o := by
  rw [operator, bind_eq_ok_iff]
  refine exists_congr fun s => and_congr string_eq_ok_iff ?_
  cases Operator.ofText? s <;> simp

theorem connective_eq_ok_iff {c : Connective} : connective j = .ok c ↔ IsConnective j c := by
  rw [connective, bind_eq_ok_iff]
  refine exists_congr fun s => and_congr string_eq_ok_iff ?_
  cases Connective.ofText? s <;> simp

theorem joints_eq_ok_iff {cs : Option (List Connective)} : joints j = .ok cs ↔ AreJoints j cs := by
  cases j with
  | null =>
    constructor
    · rintro ⟨⟩
      exact .none
    · rintro ⟨⟩
      rfl
  | array items =>
    rw [joints, map_eq_ok_iff]
    simp only [mapM_eq_ok_iff_of_forall fun _ _ _ => connective_eq_ok_iff]
    constructor
    · rintro ⟨cs, hcs, rfl⟩
      exact .some hcs
    · intro h
      cases h with
      | some hcs => exact ⟨_, hcs, rfl⟩
  | _ => exact ⟨nofun, nofun⟩

/-! ### Conditions -/

theorem exists_toList_eq {values : List Json} (h : values.length ≤ 1) : ∃ j? : Option Json, values = j?.toList := by
  match values with
  | [] => exact ⟨none, rfl⟩
  | [j] => exact ⟨some j, rfl⟩

theorem canonical_head? (j? : Option Json) :
    (j?.toList.head?.map Json.canonical).getD .null = (j?.getD .null).canonical := by
  cases j? <;> rfl

/-- A document is read as a condition exactly if it has the shape of one. -/
theorem condition_eq_ok_iff : condition .written j = .ok c ↔ IsCondition j c := by
  match j with
  | .object members =>
    rw [condition_object_iff, gives_some_iff, gives_some_iff,
      gives_getD_iff (d := .null) (fun j => .ok j.canonical) rfl]
    simp only [string_eq_ok_iff, operator_eq_ok_iff, Except.ok.injEq]
    obtain ⟨name, o, v⟩ := c
    constructor
    · rintro ⟨⟨_, hfield, rfl⟩, ⟨_, hoperator, ho⟩, v?, hvalue, rfl⟩
      exact .object hfield hoperator ho hvalue
    · intro h
      cases h with
      | object hfield hoperator ho hvalue => exact ⟨⟨_, hfield, rfl⟩, ⟨_, hoperator, ho⟩, _, hvalue, rfl⟩
  | .array [] => constructor <;> rintro ⟨⟩
  | .array [f] =>
    constructor
    · intro h
      obtain ⟨_, -, h⟩ := bind_eq_ok_iff.mp h
      cases h
    · rintro ⟨⟩
  | .array (f :: o :: rest) =>
    rw [condition, bind_eq_ok_iff]
    simp only [bind_eq_ok_iff, string_eq_ok_iff, operator_eq_ok_iff]
    constructor
    · rintro ⟨name, rfl, o', ho, h⟩
      split at h
      · cases h
      · next hlength =>
        cases h
        obtain ⟨v?, rfl⟩ := exists_toList_eq (Nat.not_lt.mp hlength)
        rw [canonical_head?]
        exact .array ho
    · intro h
      cases h with
      | array ho =>
        refine ⟨_, rfl, _, ho, ?_⟩
        rw [if_neg (Nat.not_lt.mpr Option.length_toList_le), canonical_head?]
  | .null | .bool _ | .number _ | .text _ => constructor <;> rintro ⟨⟩

/-! ### Groups -/

theorem isGroup_iff : isGroup members = true ↔ HasOperations (.object members) := by
  rw [isGroup, Bool.or_eq_true, Keyed.has_eq_isSome, Keyed.has_eq_isSome]
  rfl

theorem condition_sorted_iff (hj : j.HasDistinctNames) : condition .sorted j = .ok c ↔ IsCondition j c :=
  (Iff.intro (condition_order (.inr hj)) (condition_order (.inl rfl))).trans condition_eq_ok_iff

theorem group_sorted_iff (hj : j.HasDistinctNames) : group .sorted j = .ok g ↔ group .written j = .ok g :=
  ⟨group_order (.inr hj), group_order (.inl rfl)⟩

theorem operand_of_hasOperations (h : HasOperations j) :
    operand j = Operand.group <$> (group .sorted j).mapError .within := by
  match j with
  | .object members => rw [operand, if_pos (isGroup_iff.mpr h), group]
  | .null | .bool _ | .number _ | .text _ | .array _ => rcases h with ⟨⟨⟩⟩ | ⟨⟨⟩⟩

theorem operand_of_not_hasOperations (h : ¬HasOperations j) :
    operand j = Operand.condition <$> (condition .sorted j).mapError .within := by
  match j with
  | .object members => rw [operand, if_neg (mt isGroup_iff.mp h)]
  | .null | .bool _ | .number _ | .text _ | .array _ => rfl

theorem operand_iff_isOperand (hj : j.HasDistinctNames) (hgroup : ∀ g, group .written j = .ok g ↔ IsGroup j g)
    {o : Operand} : operand j = .ok o ↔ IsOperand j o := by
  by_cases hops : HasOperations j
  · rw [operand_of_hasOperations hops, map_eq_ok_iff]
    simp only [mapError_eq_ok_iff, group_sorted_iff hj, hgroup]
    constructor
    · rintro ⟨g, hg, rfl⟩
      exact .group hops hg
    · rintro (⟨hnot, -⟩ | ⟨-, hg⟩)
      · exact absurd hops hnot
      · exact ⟨_, hg, rfl⟩
  · rw [operand_of_not_hasOperations hops, map_eq_ok_iff]
    simp only [mapError_eq_ok_iff, condition_sorted_iff hj]
    constructor
    · rintro ⟨c, hc, rfl⟩
      exact .condition hops hc
    · rintro (⟨-, hc⟩ | ⟨h, -⟩)
      · exact ⟨_, hc, rfl⟩
      · exact absurd h hops

theorem operandList_eq_mapM (items : List Json) : operandList items = items.mapM operand := by
  induction items with
  | nil => rfl
  | cons j items ih => rw [operandList, ih, List.mapM_cons]

theorem operands_of_not_array (h : ∀ items, j ≠ .array items) {l : List Operand} :
    operands j = .ok l ↔ ∃ items, j = .array items ∧ List.Forall₂ IsOperand items l := by
  refine ⟨fun hl => ?_, fun ⟨items, hj, _⟩ => absurd hj (h items)⟩
  match j with
  | .array items => exact absurd rfl (h items)
  | .null | .bool _ | .number _ | .text _ | .object _ => cases hl

/-- What is read from the document is told by its shape. -/
structure FollowsShape (j : Json) : Prop where
  group_iff {g : Group} : group .written j = .ok g ↔ IsGroup j g
  operand_iff {o : Operand} : operand j = .ok o ↔ IsOperand j o
  operands_iff {l : List Operand} : operands j = .ok l ↔ ∃ items, j = .array items ∧ List.Forall₂ IsOperand items l

theorem isRightSide_iff (hj : j ≠ .null) {r : Option Group} : IsRightSide j r ↔ ∃ g, IsGroup j g ∧ some g = r := by
  constructor
  · rintro (⟨⟩ | hg)
    · exact absurd rfl hj
    · exact ⟨_, hg, rfl⟩
  · rintro ⟨g, hg, rfl⟩
    exact .some hg

theorem FollowsShape.rightSide_iff (h : FollowsShape j) {r : Option Group} :
    rightSide .written j = .ok r ↔ IsRightSide j r := by
  have hsome : (∃ g, group .written j = .ok g ∧ some g = r) ↔ ∃ g, IsGroup j g ∧ some g = r :=
    exists_congr fun g => and_congr_left' h.group_iff
  cases j with
  | null =>
    constructor
    · rintro ⟨⟩
      exact .none
    · rintro (⟨⟩ | ⟨⟨⟩⟩)
      rfl
  | array items => rwa [isRightSide_iff (by simp), Decoding.rightSide, map_eq_ok_iff]
  | object members => rwa [isRightSide_iff (by simp), Decoding.rightSide, map_eq_ok_iff]
  | _ =>
    rw [isRightSide_iff (by simp)]
    exact ⟨nofun, fun ⟨_, hg, _⟩ => nomatch hg⟩

theorem followsShape_of_scalar (hj : j.HasDistinctNames) (hitems : ∀ items, j ≠ .array items)
    (hmembers : ∀ members, j ≠ .object members) : FollowsShape j := by
  have hgroup : ∀ g, group .written j = .ok g ↔ IsGroup j g := by
    intro g
    match j with
    | .array items => exact absurd rfl (hitems items)
    | .object members => exact absurd rfl (hmembers members)
    | .null | .bool _ | .number _ | .text _ => exact ⟨nofun, nofun⟩
  exact ⟨hgroup _, operand_iff_isOperand hj hgroup, operands_of_not_array hitems⟩

theorem followsShape_null : FollowsShape .null :=
  followsShape_of_scalar .null (by simp) (by simp)

/-- A group that is an object is told by its shape if the values of its members are. -/
theorem group_object_iff_isGroup (h : ∀ m ∈ members, FollowsShape m.2) :
    group .written (.object members) = .ok g ↔ IsGroup (.object members) g := by
  have hvalues : ∀ {names : List String} {j}, j ∈ valuesOf names members → FollowsShape j := by
    intro names j hj
    obtain ⟨m, hm, rfl⟩ := List.mem_map.mp hj
    exact h m (List.mem_filter.mp hm).1
  have hright : ∀ {names : List String} {j? : Option Json}, valuesOf names members = j?.toList →
      FollowsShape (j?.getD .null) := by
    intro names j? hj
    cases j? with
    | none => exact followsShape_null
    | some j =>
      have hmem : j ∈ valuesOf names members := by
        rw [hj]
        exact List.mem_singleton_self j
      exact hvalues hmem
  rw [group_object_iff, gives_some_iff, gives_some_iff, gives_getD_iff joints rfl,
    gives_getD_iff (rightSide .written) rfl]
  simp only [connective_eq_ok_iff, joints_eq_ok_iff]
  obtain ⟨c, l, cs, r⟩ := g
  constructor
  · rintro ⟨⟨_, hconnective, hc⟩, ⟨_, hoperations, hl⟩, ⟨_, hjoints, hcs⟩, _, hrightSide, hr⟩
    obtain ⟨items, rfl, hitems⟩ := (hvalues (hoperations ▸ List.mem_singleton_self _)).operands_iff.mp hl
    exact .object hconnective hc hoperations hitems hjoints hcs hrightSide ((hright hrightSide).rightSide_iff.mp hr)
  · intro hg
    cases hg with
    | object hconnective hc hoperations hitems hjoints hcs hrightSide hr =>
      have hl := (hvalues (hoperations ▸ List.mem_singleton_self _)).operands_iff.mpr ⟨_, rfl, hitems⟩
      exact ⟨⟨_, hconnective, hc⟩, ⟨_, hoperations, hl⟩, ⟨_, hjoints, hcs⟩, _, hrightSide,
        (hright hrightSide).rightSide_iff.mpr hr⟩

/-- The parts of a group that is an array; what is missing behind the first two counts as null. -/
theorem groupItems_eq_ok_iff {c l : Json} {rest : List Json} : groupItems .written (c :: l :: rest) = .ok g ↔
    connective c = .ok g.connective ∧ operands l = .ok g.operands ∧ rest.length ≤ 2 ∧
      joints (rest[0]?.getD .null) = .ok g.joints ∧ rightSide .written (rest[1]?.getD .null) = .ok g.rightSide := by
  have hread : groupItems .written (c :: l :: rest) = (do
      let c ← connective c
      let l ← operands l
      let cs ← joints (rest[0]?.getD .null)
      let r ← rightSide .written (rest[1]?.getD .null)
      if rest.length ≤ 2 then .ok ⟨c, l, cs, r⟩ else .error .trailing) := by
    match rest with
    | [] | [_] | [_, _] | _ :: _ :: _ :: _ => rfl
  obtain ⟨c', l', cs', r'⟩ := g
  rw [hread]
  simp only [bind_eq_ok_iff]
  constructor
  · rintro ⟨_, hc, _, hl, _, hcs, _, hr, h⟩
    split at h
    · next hlength =>
      cases h
      exact ⟨hc, hl, hlength, hcs, hr⟩
    · cases h
  · rintro ⟨hc, hl, hlength, hcs, hr⟩
    exact ⟨_, hc, _, hl, _, hcs, _, hr, if_pos hlength⟩

/-- A group that is an array is told by its shape if its items are. -/
theorem group_array_iff_isGroup {items : List Json} (h : ∀ j ∈ items, FollowsShape j) :
    group .written (.array items) = .ok g ↔ IsGroup (.array items) g := by
  match items with
  | [] => exact ⟨nofun, nofun⟩
  | [c] =>
    constructor
    · intro hg
      obtain ⟨_, -, hg⟩ := bind_eq_ok_iff.mp hg
      cases hg
    · rintro ⟨⟩
  | c :: l :: rest =>
    have hl : FollowsShape l := h l (by simp)
    have hright : FollowsShape (rest[1]?.getD .null) := by
      cases hj : rest[1]? with
      | none => exact followsShape_null
      | some j => exact h j (by simp [List.mem_of_getElem? hj])
    rw [group, groupItems_eq_ok_iff, connective_eq_ok_iff, joints_eq_ok_iff, hl.operands_iff, hright.rightSide_iff]
    obtain ⟨c', l', cs', r'⟩ := g
    constructor
    · rintro ⟨hc, ⟨items, rfl, hitems⟩, hlength, hcs, hr⟩
      exact .array hc hitems hlength hcs hr
    · intro hg
      cases hg with
      | array hc hitems hlength hcs hr => exact ⟨hc, ⟨_, rfl, hitems⟩, hlength, hcs, hr⟩

/-- By induction on the document: its items and members are read by their shape. -/
theorem followsShape (hj : j.HasDistinctNames) : FollowsShape j := by
  induction hj with
  | @array items hitems ih =>
    have hgroup : ∀ g, group .written (.array items) = .ok g ↔ IsGroup (.array items) g :=
      fun _ => group_array_iff_isGroup ih
    refine ⟨hgroup _, operand_iff_isOperand (.array hitems) hgroup, fun {l} => ?_⟩
    rw [operands, operandList_eq_mapM, mapM_eq_ok_iff_of_forall fun j hj _ => (ih j hj).operand_iff]
    exact ⟨fun hl => ⟨items, rfl, hl⟩, fun ⟨_, h, hl⟩ => Json.array.inj h ▸ hl⟩
  | @object members hnames hmembers ih =>
    have hgroup : ∀ g, group .written (.object members) = .ok g ↔ IsGroup (.object members) g :=
      fun _ => group_object_iff_isGroup ih
    exact ⟨hgroup _, operand_iff_isOperand (.object hnames hmembers) hgroup, operands_of_not_array (by simp)⟩
  | _ => exact followsShape_of_scalar (by constructor) (by simp) (by simp)

end Decoding

/-! ### Filters -/

namespace Filter

open Decoding Shape

/-- A document whose objects repeat no name is read as a filter exactly if it has the shape of one, and as the filter
    of its parts, in their order. -/
theorem ofEither_iff_isFilter {j : Json} (hj : j.HasDistinctNames) (f : Filter) :
    ofEither j = .ok f ↔ IsFilter j f := by
  match j with
  | .null =>
    constructor
    · rintro ⟨⟩
      exact .empty
    · rintro ⟨⟩
      rfl
  | .array items =>
    have hcondition : ∀ j ∈ items, ∀ c, condition .sorted j = .ok c ↔ IsCondition j c := by
      cases hj with
      | array hitems => exact fun j hj _ => condition_sorted_iff (hitems j hj)
    rw [ofEither, map_eq_ok_iff]
    simp only [mapError_eq_ok_iff, mapM_eq_ok_iff_of_forall hcondition]
    constructor
    · rintro ⟨cs, hcs, rfl⟩
      exact .conditions hcs
    · rintro (_ | hcs)
      exact ⟨_, hcs, rfl⟩
  | .object members =>
    by_cases hops : HasOperations (.object members)
    · rw [ofEither, if_pos (isGroup_iff.mpr hops), map_eq_ok_iff]
      simp only [mapError_eq_ok_iff, group_sorted_iff hj, (followsShape hj).group_iff]
      constructor
      · rintro ⟨g, hg, rfl⟩
        exact .group hops hg
      · rintro (_ | _ | ⟨hnot, -⟩ | ⟨-, hg⟩)
        · exact absurd hops hnot
        · exact ⟨_, hg, rfl⟩
    · rw [ofEither, if_neg (mt isGroup_iff.mp hops), map_eq_ok_iff]
      simp only [mapError_eq_ok_iff, condition_sorted_iff hj]
      constructor
      · rintro ⟨c, hc, rfl⟩
        exact .condition hops hc
      · rintro (_ | _ | ⟨-, hc⟩ | ⟨h, -⟩)
        · exact ⟨_, hc, rfl⟩
        · exact absurd h hops
  | .bool _ | .number _ | .text _ => constructor <;> rintro ⟨⟩

/-- A group with the other names of its parts, an operand and a right side that are arrays and a member that is passed
    over has the shape of a filter; with two connectives it has not. -/
theorem ofEither_iff_isFilter_mixed :
    let mixed : Json := .object [("rightSideOperands", .array [.text "and", .array []]),
      ("groupOperations", .array [.array [.text "name", .text "is_null"],
        .object [("note", .null), ("operator", .text ">"), ("field", .text "age"), ("value", .text "3")]]),
      ("groupOperator", .text "or")]
    let doubled : Json := .object [("operator", .text "or"), ("operations", .array []), ("groupOperator", .text "or")]
    let f : Filter := .complex ⟨.or, [.condition ⟨"name", .null true, .null⟩,
      .condition ⟨"age", .compare .gt, .text "3"⟩], none, some (.uniform .and [])⟩
    IsFilter mixed f ∧ ∀ f', ¬IsFilter doubled f' := by
  intro mixed doubled f
  have hmixed : mixed.HasDistinctNames := by
    refine .object (by decide) (List.forall_mem_cons.mpr ⟨?_, List.forall_mem_cons.mpr ⟨?_, ?_⟩⟩)
    · exact .array (List.forall_mem_cons.mpr ⟨.text _, List.forall_mem_singleton.mpr (.array nofun)⟩)
    · refine .array (List.forall_mem_cons.mpr ⟨?_, List.forall_mem_singleton.mpr ?_⟩)
      · exact .array (List.forall_mem_cons.mpr ⟨.text _, List.forall_mem_singleton.mpr (.text _)⟩)
      · refine .object (by decide) (List.forall_mem_cons.mpr ⟨.null, List.forall_mem_cons.mpr ⟨.text _, ?_⟩⟩)
        exact List.forall_mem_cons.mpr ⟨.text _, List.forall_mem_singleton.mpr (.text _)⟩
    · exact List.forall_mem_singleton.mpr (.text _)
  have hdoubled : doubled.HasDistinctNames := by
    refine .object (by decide) (List.forall_mem_cons.mpr ⟨.text _, List.forall_mem_cons.mpr ⟨.array nofun, ?_⟩⟩)
    exact List.forall_mem_singleton.mpr (.text _)
  have hrejected : ofEither doubled = .error (.within (.repeated "operator")) := rfl
  refine ⟨(ofEither_iff_isFilter hmixed f).mp rfl, fun f' hf => ?_⟩
  rw [← ofEither_iff_isFilter hdoubled, hrejected] at hf
  cases hf

end Filter

end RowFilter
