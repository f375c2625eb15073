import RowFilter.Filter.Decoding
import RowFilter.Proofs.Keyed
import RowFilter.Proofs.Success

/-! What is read from a document is the same in both orders of reading, if the order in which it was read lost
    no member. As it is written a document loses none, a repeated name being a fault or passed over; as a value
    it loses none if its objects repeat no name. -/

namespace RowFilter

open Success

/-- No object in the document repeats a name. -/
inductive Json.HasDistinctNames : Json → Prop where
  | null : HasDistinctNames .null
  | bool (b : Bool) : HasDistinctNames (.bool b)
  | number (n : JsonNumber) : HasDistinctNames (.number n)
  | text (s : String) : HasDistinctNames (.text s)
  | array {items : List Json} : (∀ j ∈ items, HasDistinctNames j) → HasDistinctNames (.array items)
  | object {members : List (String × Json)} : (Keyed.names members).Nodup →
      (∀ m ∈ members, HasDistinctNames m.2) → HasDistinctNames (.object members)

/-- Reading a document in the order loses none of its members. -/
def MemberOrder.LosesNothing (order : MemberOrder) (j : Json) : Prop :=
  order = .written ∨ j.HasDistinctNames

namespace MemberOrder.LosesNothing

variable {order : MemberOrder}

theorem item {items : List Json} {j : Json} (h : order.LosesNothing (.array items)) (hj : j ∈ items) :
    order.LosesNothing j := by
  rcases h with h | h
  · exact .inl h
  · cases h with
    | array h => exact .inr (h j hj)

theorem names {members : List (String × Json)} (h : order.LosesNothing (.object members)) :
    order = .written ∨ (Keyed.names members).Nodup := by
  rcases h with h | h
  · exact .inl h
  · cases h with
    | object hnames => exact .inr hnames

theorem member {members : List (String × Json)} {m : String × Json} (h : order.LosesNothing (.object members))
    (hm : m ∈ members) : order.LosesNothing m.2 := by
  rcases h with h | h
  · exact .inl h
  · cases h with
    | object _ h => exact .inr (h m hm)

end MemberOrder.LosesNothing

namespace Decoding

/-! ### Parts -/

section
variable {α β : Type} {order order' : MemberOrder} {l : Keyed (Option (Part α))} {as : List α}

theorem collect_cons_eq_ok_iff {seen : List String} {p : Part α} {parts : List (Part α)} :
    collect seen (p :: parts) = .ok as ↔
      p.1 ∉ seen ∧ ∃ a as', p.2 = .ok a ∧ collect (p.1 :: seen) parts = .ok as' ∧ as = a :: as' := by
  obtain ⟨name, part⟩ := p
  rw [collect]
  split
  · next h => simp [List.contains_iff_mem.mp h]
  · next h =>
    have hseen : name ∉ seen := fun hmem => h (List.contains_iff_mem.mpr hmem)
    constructor
    · intro h
      obtain ⟨a, ha, h⟩ := bind_eq_ok_iff.mp h
      obtain ⟨as', has, h⟩ := bind_eq_ok_iff.mp h
      exact ⟨hseen, a, as', ha, has, (pure_eq_ok_iff.mp h).symm⟩
    · rintro ⟨-, a, as', ha, has, rfl⟩
      have ha : part = .ok a := ha
      rw [ha, ok_bind, has]
      rfl

/-- All parts are read if their names differ, are none of those before, and there is no fault in a part. -/
theorem collect_eq_ok_iff {seen : List String} {parts : List (Part α)} : collect seen parts = .ok as ↔
    (parts.map Prod.fst).Nodup ∧ (∀ p ∈ parts, p.1 ∉ seen) ∧ as.map .ok = parts.map Prod.snd := by
  induction parts generalizing seen as with
  | nil => cases as <;> simp [collect]
  | cons p parts ih =>
    rw [collect_cons_eq_ok_iff, List.map_cons, List.map_cons, List.nodup_cons, List.forall_mem_cons]
    constructor
    · rintro ⟨hname, a, as', ha, has, rfl⟩
      obtain ⟨hnodup, hseen, hparts⟩ := ih.mp has
      refine ⟨⟨fun hmem => ?_, hnodup⟩, ⟨hname, fun q hq hmem => ?_⟩, ?_⟩
      · obtain ⟨q, hq, hqname⟩ := List.mem_map.mp hmem
        exact hseen q hq (hqname ▸ List.mem_cons_self)
      · exact hseen q hq (List.mem_cons_of_mem _ hmem)
      · rw [List.map_cons, ha, hparts]
    · rintro ⟨⟨hnotMem, hnodup⟩, ⟨hname, hseen⟩, hparts⟩
      obtain ⟨a, as', rfl, ha, hparts⟩ := List.map_eq_cons_iff.mp hparts
      refine ⟨hname, a, as', ha.symm, ih.mpr ⟨hnodup, fun q hq hmem => ?_, hparts⟩, rfl⟩
      rcases List.mem_cons.mp hmem with hmem | hmem
      · exact hnotMem (hmem ▸ List.mem_map_of_mem hq)
      · exact hseen q hq hmem

/-- What a function gives on a list can be put into any other order. -/
theorem exists_map_of_perm {f : α → β} {bs bs' : List β} (hperm : bs.Perm bs') (h : as.map f = bs) :
    ∃ as', as'.map f = bs' ∧ as.Perm as' := by
  induction hperm generalizing as with
  | nil => exact ⟨as, h, .rfl⟩
  | cons b _ ih =>
    obtain ⟨a, as, rfl, hb, has⟩ := List.map_eq_cons_iff.mp h
    obtain ⟨as', has', hperm⟩ := ih has
    exact ⟨a :: as', by rw [List.map_cons, hb, has'], hperm.cons a⟩
  | swap b b' bs =>
    obtain ⟨a', as, rfl, hb', has⟩ := List.map_eq_cons_iff.mp h
    obtain ⟨a, as, rfl, hb, has⟩ := List.map_eq_cons_iff.mp has
    exact ⟨a :: a' :: as, by rw [List.map_cons, List.map_cons, hb, hb', has], .swap a a' as⟩
  | trans _ _ ih ih' =>
    obtain ⟨as', has', hperm⟩ := ih h
    obtain ⟨as'', has'', hperm'⟩ := ih' has'
    exact ⟨as'', has'', hperm.trans hperm'⟩

/-- Parts that are read in one order are read in any other. -/
theorem collect_perm {parts parts' : List (Part α)} (hperm : parts.Perm parts') (h : collect [] parts = .ok as) :
    ∃ as', collect [] parts' = .ok as' ∧ as.Perm as' := by
  obtain ⟨hnodup, -, hparts⟩ := collect_eq_ok_iff.mp h
  obtain ⟨as', has', hperm'⟩ := exists_map_of_perm (hperm.map Prod.snd) hparts
  exact ⟨as', collect_eq_ok_iff.mpr ⟨(hperm.map Prod.fst).nodup hnodup, nofun, has'⟩, hperm'⟩

theorem arrange_perm (hl : l.IsLossless) : ((order.arrange l).filterMap Prod.snd).Perm (l.filterMap Prod.snd) := by
  cases order with
  | written => exact .rfl
  | sorted => exact hl.sorted_perm

theorem exists_mem_of_arrange (hl : l.IsLossless) {p : Part α} (hp : p ∈ (order.arrange l).filterMap Prod.snd) :
    ∃ e ∈ l, e.2 = some p :=
  List.mem_filterMap.mp ((arrange_perm hl).mem_iff.mp hp)

/-- No part has a fault if all that is read is read without one. -/
theorem exists_ok_of_gather (hl : l.IsLossless) (h : gather order l = .ok as) {e : String × Option (Part α)}
    (he : e ∈ l) {p : Part α} (hp : e.2 = some p) : ∃ a ∈ as, p.2 = .ok a := by
  obtain ⟨-, -, hparts⟩ := collect_eq_ok_iff.mp h
  have hmem : p ∈ (order.arrange l).filterMap Prod.snd :=
    (arrange_perm hl).mem_iff.mpr (List.mem_filterMap.mpr ⟨e, he, hp⟩)
  obtain ⟨a, ha, hpart⟩ := List.mem_map.mp (hparts ▸ List.mem_map_of_mem (f := Prod.snd) hmem)
  exact ⟨a, ha, hpart.symm⟩

/-- Members that are read as they are written lose no part: two parts of one name would be a fault. -/
theorem isLossless_of_written (proper : String → Option String)
    (hproper : ∀ e ∈ l, e.2.map Prod.fst = proper e.1) (h : gather .written l = .ok as) : l.IsLossless := by
  have hnodup : ((l.filterMap Prod.snd).map Prod.fst).Nodup := (collect_eq_ok_iff.mp h).1
  clear h
  induction l with
  | nil => exact .nil
  | cons e l ih =>
    obtain ⟨k, o⟩ := e
    obtain ⟨hk, hl⟩ := List.forall_mem_cons.mp hproper
    cases o with
    | none => exact List.pairwise_cons.mpr ⟨fun _ _ _ => rfl, ih hl hnodup⟩
    | some p =>
      obtain ⟨hnotMem, hnodup⟩ := List.nodup_cons.mp hnodup
      refine List.pairwise_cons.mpr ⟨fun e he hname => absurd ?_ hnotMem, ih hl hnodup⟩
      have hsome : e.2.map Prod.fst = some p.1 := by
        rw [hl e he, ← hname]
        exact hk.symm
      obtain ⟨q, hq, hqname⟩ := Option.map_eq_some_iff.mp hsome
      exact List.mem_map.mpr ⟨q, List.mem_filterMap.mpr ⟨e, he, hq⟩, hqname⟩

theorem isLossless_of_gather (proper : String → Option String)
    (hproper : ∀ e ∈ l, e.2.map Prod.fst = proper e.1) (hnames : order = .written ∨ l.names.Nodup)
    (h : gather order l = .ok as) : l.IsLossless := by
  rcases hnames with rfl | hnames
  · exact isLossless_of_written proper hproper h
  · exact Keyed.isLossless_of_nodup hnames

theorem map_name_eq {name : α → String} {parts : List (Part α)} (h : as.map .ok = parts.map Prod.snd)
    (hname : ∀ p ∈ parts, ∀ a, p.2 = .ok a → name a = p.1) : as.map name = parts.map Prod.fst := by
  induction parts generalizing as with
  | nil =>
    obtain rfl := List.map_eq_nil_iff.mp h
    rfl
  | cons p parts ih =>
    obtain ⟨a, as, rfl, ha, has⟩ := List.map_eq_cons_iff.mp h
    obtain ⟨hp, hparts⟩ := List.forall_mem_cons.mp hname
    rw [List.map_cons, List.map_cons, ih has hparts, hp a ha.symm]

/-- What is assembled of the parts of an object does not depend on the order in which they are read, if it does
    not depend on the order of the parts. -/
theorem gather_bind_order {assemble : List α → Except ShapeError β} {name : α → String} (hl : l.IsLossless)
    (hname : ∀ e ∈ l, ∀ p a, e.2 = some (p, .ok a) → name a = p)
    (hassemble : ∀ as as', as.Perm as' → (as.map name).Nodup → assemble as = assemble as') {b : β}
    (h : (gather order l >>= assemble) = .ok b) : (gather order' l >>= assemble) = .ok b := by
  obtain ⟨as, has, hb⟩ := bind_eq_ok_iff.mp h
  obtain ⟨hnodup, -, hparts⟩ := collect_eq_ok_iff.mp has
  have hnames : as.map name = ((order.arrange l).filterMap Prod.snd).map Prod.fst := by
    refine map_name_eq hparts fun p hp a ha => ?_
    obtain ⟨e, he, hep⟩ := exists_mem_of_arrange hl hp
    exact hname e he p.1 a (by rw [hep, ← ha])
  obtain ⟨as', has', hperm⟩ := collect_perm ((arrange_perm hl).trans (arrange_perm hl).symm) has
  rw [gather, has', ok_bind, ← hassemble as as' hperm (hnames ▸ hnodup), hb]

/-- Where parts of one name are at most one, the first part of a sort is the only one. -/
theorem findSome?_perm {name : α → String} {part? : α → Option β} {k : String}
    (hname : ∀ a b, part? a = some b → name a = k) {as' : List α} (hperm : as.Perm as')
    (hnodup : (as.map name).Nodup) : as.findSome? part? = as'.findSome? part? := by
  induction hperm with
  | nil => rfl
  | cons a _ ih => rw [List.findSome?_cons, List.findSome?_cons, ih (List.nodup_cons.mp hnodup).2]
  | swap a a' as =>
    have hne : name a' ≠ name a := fun h => (List.nodup_cons.mp hnodup).1 (h ▸ List.mem_cons_self)
    rw [List.findSome?_cons, List.findSome?_cons, List.findSome?_cons, List.findSome?_cons]
    cases ha : part? a with
    | none => rfl
    | some b =>
      cases ha' : part? a' with
      | none => rfl
      | some b' => exact absurd ((hname a' b' ha').trans (hname a b ha).symm) hne
  | trans hperm _ ih ih' => exact (ih hnodup).trans (ih' ((hperm.map name).nodup hnodup))

end

/-! ### Conditions -/

variable {order order' : MemberOrder}

/-- The name of the member that gives a part. -/
def ConditionPart.name : ConditionPart → String
  | field _ => "field"
  | operator _ => "operator"
  | value _ => "value"

/-- The proper name of a part is known from the name of its member. -/
theorem map_fst_conditionPart (name : String) (j : Json) :
    (conditionPart name j).map Prod.fst = (conditionPart name .null).map Prod.fst := by
  simp only [conditionPart, apply_ite (Option.map Prod.fst), Option.map_some]

theorem name_conditionPart {name k : String} {j : Json} {part : ConditionPart}
    (h : conditionPart name j = some (k, .ok part)) : part.name = k := by
  unfold conditionPart at h
  split at h
  · obtain ⟨rfl, hpart⟩ := Prod.mk.inj (Option.some.inj h)
    obtain ⟨s, -, rfl⟩ := map_eq_ok_iff.mp hpart
    rfl
  · split at h
    · obtain ⟨rfl, hpart⟩ := Prod.mk.inj (Option.some.inj h)
      obtain ⟨o, -, rfl⟩ := map_eq_ok_iff.mp hpart
      rfl
    · split at h
      · cases h
        rfl
      · cases h

theorem assembleCondition_perm {parts parts' : List ConditionPart} (hperm : parts.Perm parts')
    (hnodup : (parts.map ConditionPart.name).Nodup) : assembleCondition parts = assembleCondition parts' := by
  unfold assembleCondition
  rw [findSome?_perm (k := "field") _ hperm hnodup, findSome?_perm (k := "operator") _ hperm hnodup,
    findSome?_perm (k := "value") _ hperm hnodup]
  all_goals
    intro part b hpart
    cases part <;> first | rfl | cases hpart

/-- A condition is the same in both orders of reading. -/
theorem condition_order {j : Json} {c : Condition} (hj : order.LosesNothing j) (h : condition order j = .ok c) :
    condition order' j = .ok c := by
  match j with
  | .object members =>
    have hnames : Keyed.names (members.map fun m => (m.1, conditionPart m.1 m.2)) = Keyed.names members :=
      List.map_map
    have hl : Keyed.IsLossless (members.map fun m => (m.1, conditionPart m.1 m.2)) := by
      obtain ⟨parts, hparts, -⟩ := bind_eq_ok_iff.mp h
      refine isLossless_of_gather (fun name => (conditionPart name .null).map Prod.fst) (fun e he => ?_)
        (hj.names.imp_right fun hnodup => ?_) hparts
      · obtain ⟨m, -, rfl⟩ := List.mem_map.mp he
        exact map_fst_conditionPart m.1 m.2
      · rwa [hnames]
    refine gather_bind_order hl (fun e he p part hp => ?_) (fun _ _ => assembleCondition_perm) h
    obtain ⟨m, -, rfl⟩ := List.mem_map.mp he
    exact name_conditionPart hp
  | .array [] => cases h
  | .array [f] =>
    obtain ⟨_, -, h⟩ := bind_eq_ok_iff.mp h
    cases h
  | .array (f :: o :: rest) =>
    obtain ⟨s, hs, h⟩ := bind_eq_ok_iff.mp h
    obtain ⟨o', ho, h⟩ := bind_eq_ok_iff.mp h
    rw [condition, hs, ok_bind, ho, ok_bind]
    split at h
    · cases h
    · next hlength => rw [if_neg hlength, ← h]
  | .null | .bool _ | .number _ | .text _ => cases h

/-! ### Groups -/

/-- The name of the member that gives a part, or the first one of its names. -/
def GroupPart.name : GroupPart → String
  | connective _ => "operator"
  | operands _ => "operations"
  | joints _ => "nonPriorityGroupOperators"
  | rightSide _ => "rightSideOperands"

theorem groupParts_eq_map (order : MemberOrder) (members : List (String × Json)) :
    groupParts order members = members.map (groupPart order) := by
  induction members with
  | nil => rfl
  | cons m members ih => rw [groupParts, ih, List.map_cons]

theorem fst_groupPart (order : MemberOrder) (m : String × Json) : (groupPart order m).1 = m.1 := by
  obtain ⟨name, j⟩ := m
  rw [groupPart]

/-- The proper name of a part is known from the name of its member. -/
theorem map_fst_groupPart (order : MemberOrder) (m : String × Json) :
    (groupPart order m).2.map Prod.fst = (groupPart .written (m.1, .null)).2.map Prod.fst := by
  obtain ⟨name, j⟩ := m
  rw [groupPart, groupPart]
  simp only [apply_ite (Option.map Prod.fst), Option.map_some]

/-- What a member of a group gives. -/
theorem groupPart_cases {name k : String} {j : Json} {part? : Except ShapeError GroupPart}
    (h : (groupPart order (name, j)).2 = some (k, part?)) :
    (k = "operator" ∧ (name = "operator" ∨ name = "groupOperator") ∧ part? = .connective <$> connective j) ∨
    (k = "operations" ∧ (name = "operations" ∨ name = "groupOperations") ∧ part? = .operands <$> operands j) ∨
    (k = "nonPriorityGroupOperators" ∧ (name = "nonPriorityGroupOperators" ∨ name = "nonPriorityOperators") ∧
      part? = .joints <$> joints j) ∨
    (k = "rightSideOperands" ∧ name = "rightSideOperands" ∧ part? = .rightSide <$> rightSide order j) := by
  rw [groupPart] at h
  split at h
  · next hname =>
    cases h
    exact .inl ⟨rfl, hname, rfl⟩
  · split at h
    · next hname =>
      cases h
      exact .inr (.inl ⟨rfl, hname, rfl⟩)
    · split at h
      · next hname =>
        cases h
        exact .inr (.inr (.inl ⟨rfl, hname, rfl⟩))
      · split at h
        · next hname =>
          cases h
          exact .inr (.inr (.inr ⟨rfl, hname, rfl⟩))
        · cases h

theorem name_groupPart {m : String × Json} {k : String} {part : GroupPart}
    (h : (groupPart order m).2 = some (k, .ok part)) : part.name = k := by
  obtain ⟨name, j⟩ := m
  obtain ⟨rfl, -, hpart⟩ | ⟨rfl, -, hpart⟩ | ⟨rfl, -, hpart⟩ | ⟨rfl, -, hpart⟩ := groupPart_cases h <;>
  · obtain ⟨_, -, rfl⟩ := map_eq_ok_iff.mp hpart.symm
    rfl

/-- A member gives the same part in both orders if a right side in it is read without a fault. -/
theorem groupPart_eq {m : String × Json} (hm : ∀ p, (groupPart order m).2 = some p → ∃ part, p.2 = .ok part)
    (hright : ∀ g, rightSide order m.2 = .ok g → rightSide order' m.2 = .ok g) :
    groupPart order' m = groupPart order m := by
  obtain ⟨name, j⟩ := m
  rw [groupPart] at hm ⊢
  rw [groupPart]
  revert hm
  split
  · exact fun _ => rfl
  · split
    · exact fun _ => rfl
    · split
      · exact fun _ => rfl
      · split
        · intro hm
          obtain ⟨part, hpart⟩ := hm _ rfl
          obtain ⟨g, hg, -⟩ := map_eq_ok_iff.mp hpart
          rw [hg, hright g hg]
        · exact fun _ => rfl

theorem assembleGroup_perm {parts parts' : List GroupPart} (hperm : parts.Perm parts')
    (hnodup : (parts.map GroupPart.name).Nodup) : assembleGroup parts = assembleGroup parts' := by
  unfold assembleGroup
  rw [findSome?_perm (k := "operator") _ hperm hnodup, findSome?_perm (k := "operations") _ hperm hnodup,
    findSome?_perm (k := "nonPriorityGroupOperators") _ hperm hnodup,
    findSome?_perm (k := "rightSideOperands") _ hperm hnodup]
  all_goals
    intro part b hpart
    cases part <;> first | rfl | cases hpart

theorem isLossless_groupParts {members : List (String × Json)} (hj : order.LosesNothing (.object members))
    {parts : List GroupPart} (h : gather order (groupParts order members) = .ok parts) :
    (groupParts order members).IsLossless := by
  have hnames : (groupParts order members).names = Keyed.names members := by
    rw [groupParts_eq_map, Keyed.names, List.map_map]
    exact List.map_congr_left fun m _ => fst_groupPart order m
  refine isLossless_of_gather (fun name => (groupPart .written (name, .null)).2.map Prod.fst) (fun e he => ?_)
    (hj.names.imp_right fun hnodup => ?_) h
  · rw [groupParts_eq_map] at he
    obtain ⟨m, -, rfl⟩ := List.mem_map.mp he
    rw [map_fst_groupPart, fst_groupPart]
  · rwa [hnames]

/-- The members of a group make the same group in both orders if the right sides in them do. -/
theorem groupOfParts_order {members : List (String × Json)} (hj : order.LosesNothing (.object members))
    (hright : ∀ m ∈ members, ∀ g, rightSide order m.2 = .ok g → rightSide order' m.2 = .ok g) {g : Group}
    (h : groupOfParts order (groupParts order members) = .ok g) :
    groupOfParts order' (groupParts order' members) = .ok g := by
  obtain ⟨parts, hparts, -⟩ := bind_eq_ok_iff.mp h
  have hl := isLossless_groupParts hj hparts
  have hsame : groupParts order' members = groupParts order members := by
    rw [groupParts_eq_map, groupParts_eq_map]
    refine List.map_congr_left fun m hm => groupPart_eq (fun p hp => ?_) (hright m hm)
    have hmem : groupPart order m ∈ groupParts order members := by
      rw [groupParts_eq_map]
      exact List.mem_map_of_mem hm
    obtain ⟨part, -, hpart⟩ := exists_ok_of_gather hl hparts hmem hp
    exact ⟨part, hpart⟩
  rw [hsame]
  refine gather_bind_order hl (fun e he p part hp => ?_) (fun _ _ => assembleGroup_perm) h
  rw [groupParts_eq_map] at he
  obtain ⟨m, -, rfl⟩ := List.mem_map.mp he
  exact name_groupPart hp

/-- The items of an array make the same group in both orders if the right sides in them do. -/
theorem groupItems_order {items : List Json}
    (hright : ∀ j ∈ items, ∀ g, rightSide order j = .ok g → rightSide order' j = .ok g) {g : Group}
    (h : groupItems order items = .ok g) : groupItems order' items = .ok g := by
  match items with
  | [] | [_] | [_, _] | [_, _, _] =>
    rw [groupItems] at h ⊢
    exact h
  | c :: l :: cs :: j :: rest =>
    have hj := hright j (by simp)
    rw [groupItems] at h ⊢
    obtain ⟨c', hc, h⟩ := bind_eq_ok_iff.mp h
    obtain ⟨l', hl, h⟩ := bind_eq_ok_iff.mp h
    obtain ⟨cs', hcs, h⟩ := bind_eq_ok_iff.mp h
    obtain ⟨g', hg, h⟩ := bind_eq_ok_iff.mp h
    rw [hc, ok_bind, hl, ok_bind, hcs, ok_bind, hj g' hg, ok_bind]
    split at h
    · next hrest => rw [if_pos hrest, ← h]
    · cases h

-- A right side may have one of its own; operands are read as values in either order, so only right sides recur.
mutual
/-- A right side is the same in both orders of reading. -/
theorem rightSide_order (j : Json) (hj : order.LosesNothing j) {g : Option Group} (h : rightSide order j = .ok g) :
    rightSide order' j = .ok g := by
  match j with
  | .null => exact h
  | .object members =>
    rw [rightSide] at h ⊢
    obtain ⟨g, hg, rfl⟩ := map_eq_ok_iff.mp h
    rw [groupOfParts_order hj (rightSide_members members fun m hm => hj.member hm) hg]
    rfl
  | .array items =>
    rw [rightSide] at h ⊢
    obtain ⟨g, hg, rfl⟩ := map_eq_ok_iff.mp h
    rw [groupItems_order (rightSide_items items fun j hj' => hj.item hj') hg]
    rfl
  | .bool _ | .number _ | .text _ => cases h
termination_by structural j

theorem rightSide_items (items : List Json) (h : ∀ j ∈ items, order.LosesNothing j) :
    ∀ j ∈ items, ∀ g, rightSide order j = .ok g → rightSide order' j = .ok g := by
  match items with
  | [] => exact nofun
  | j :: rest =>
    obtain ⟨hj, hrest⟩ := List.forall_mem_cons.mp h
    exact List.forall_mem_cons.mpr ⟨fun g => rightSide_order j hj, rightSide_items rest hrest⟩
termination_by structural items

theorem rightSide_members (members : List (String × Json)) (h : ∀ m ∈ members, order.LosesNothing m.2) :
    ∀ m ∈ members, ∀ g, rightSide order m.2 = .ok g → rightSide order' m.2 = .ok g := by
  match members with
  | [] => exact nofun
  | m :: rest =>
    obtain ⟨hm, hrest⟩ := List.forall_mem_cons.mp h
    exact List.forall_mem_cons.mpr ⟨rightSide_member m hm, rightSide_members rest hrest⟩
termination_by structural members

theorem rightSide_member (m : String × Json) (h : order.LosesNothing m.2) :
    ∀ g, rightSide order m.2 = .ok g → rightSide order' m.2 = .ok g := by
  match m with
  | (_, j) => exact fun g => rightSide_order j h
termination_by structural m
end

/-- A group is the same in both orders of reading. -/
theorem group_order {j : Json} {g : Group} (hj : order.LosesNothing j) (h : group order j = .ok g) :
    group order' j = .ok g := by
  match j with
  | .object members => exact groupOfParts_order hj (rightSide_members members fun m hm => hj.member hm) h
  | .array items => exact groupItems_order (rightSide_items items fun j hj' => hj.item hj') h
  | .null | .bool _ | .number _ | .text _ => cases h

theorem exists_operands_of_assembleGroup {parts : List GroupPart} {g : Group} (h : assembleGroup parts = .ok g) :
    ∃ l, .operands l ∈ parts := by
  simp only [assembleGroup] at h
  split at h
  · cases h
  · cases h
  · next l _ hl =>
    obtain ⟨part, hmem, hpart⟩ := List.exists_of_findSome?_eq_some hl
    cases part with
    | operands l => exact ⟨l, hmem⟩
    | _ => cases hpart

/-- An object that is read as a group, as it is written, is told from a condition by its names. -/
theorem isGroup_of_groupOfParts {members : List (String × Json)} {g : Group}
    (h : groupOfParts .written (groupParts .written members) = .ok g) : isGroup members = true := by
  obtain ⟨parts, hparts, hg⟩ := bind_eq_ok_iff.mp h
  obtain ⟨l, hl⟩ := exists_operands_of_assembleGroup hg
  obtain ⟨-, -, hmap⟩ := collect_eq_ok_iff.mp hparts
  obtain ⟨⟨k, part?⟩, hp, hpart⟩ := List.mem_map.mp (hmap ▸ List.mem_map_of_mem hl)
  obtain ⟨e, he, hep⟩ := List.mem_filterMap.mp hp
  rw [MemberOrder.arrange, groupParts_eq_map] at he
  obtain ⟨⟨name, j⟩, hm, rfl⟩ := List.mem_map.mp he
  have hname : name = "operations" ∨ name = "groupOperations" := by
    have hpart : part? = .ok (.operands l) := hpart
    subst hpart
    obtain ⟨-, -, h⟩ | ⟨-, hname, -⟩ | ⟨-, -, h⟩ | ⟨-, -, h⟩ := groupPart_cases hep
    · obtain ⟨_, -, h⟩ := map_eq_ok_iff.mp h.symm
      cases h
    · exact hname
    · obtain ⟨_, -, h⟩ := map_eq_ok_iff.mp h.symm
      cases h
    · obtain ⟨_, -, h⟩ := map_eq_ok_iff.mp h.symm
      cases h
  have hhas : ∀ k, name = k → Keyed.has members k = true := fun k hk =>
    List.any_eq_true.mpr ⟨(name, j), hm, beq_iff_eq.mpr hk⟩
  rcases hname with hname | hname
  · rw [isGroup, hhas _ hname, Bool.true_or]
  · rw [isGroup, hhas _ hname, Bool.or_true]

end Decoding

end RowFilter
