import RowFilter.Proofs.Filter.Codec
import RowFilter.Proofs.Json.Documents
import RowFilter.Proofs.Text.Trimming

/-! A filter is read from the text in which it is written, as long as the text is not too deep. A group
    whose text is deeper is refused, by the reader that looks at members only where they are needed as
    well. The numbers among the values have to be read as themselves. -/

namespace RowFilter

open Success

/-! ### Numbers of a filter -/

theorem Condition.isExact_toJson {c : Condition} (h : c.value.IsExact) : c.toJson.IsExact := by
  refine .object fun m hm => ?_
  unfold Condition.members at hm
  rcases List.mem_append.mp hm with hm | hm
  · rcases List.mem_cons.mp hm with rfl | hm
    · exact .text c.field
    · obtain rfl := List.mem_singleton.mp hm
      exact .text c.operator.name
  · split at hm
    · cases hm
    · obtain rfl := List.mem_singleton.mp hm
      exact h

namespace Group

/-- A member of the JSON form of a group. -/
inductive IsMember (g : Group) : String × Json → Prop where
  | connective : IsMember g ("operator", .text g.connective.name)
  | operands : IsMember g ("operations", .array (Operand.toJsons g.operands))
  | joints (cs : List Connective) : IsMember g ("nonPriorityGroupOperators", .array (cs.map fun c => .text c.name))
  | rightSide {right : Group} (h : g.rightSide = some right) : IsMember g ("rightSideOperands", right.toJson)

theorem exists_members (g : Group) : ∃ members, g.toJson = .object members ∧ ∀ m ∈ members, g.IsMember m := by
  obtain ⟨c, os, js, right⟩ := g
  refine ⟨_, rfl, fun m hm => ?_⟩
  rcases List.mem_append.mp hm with hm | hm
  · rcases List.mem_append.mp hm with hm | hm
    · rcases List.mem_cons.mp hm with rfl | hm
      · exact .connective
      · obtain rfl := List.mem_singleton.mp hm
        exact .operands
    · cases js with
      | none => cases hm
      | some cs =>
        obtain rfl := List.mem_singleton.mp hm
        exact .joints cs
  · cases right with
    | none => cases hm
    | some right =>
      obtain rfl := List.mem_singleton.mp hm
      exact .rightSide rfl

/-- A member other than the right side has one of the names of a group. -/
theorem IsMember.name {g : Group} {m : String × Json} (h : g.IsMember m) :
    m.1 ∈ LooseReading.groupNames ∨
      m.1 = LooseReading.rightSideName ∧ ∃ right, g.rightSide = some right ∧ m.2 = right.toJson := by
  cases h with
  | connective => exact .inl (by simp [LooseReading.groupNames])
  | operands => exact .inl (by simp [LooseReading.groupNames])
  | joints cs => exact .inl (by simp [LooseReading.groupNames])
  | @rightSide right h => exact .inr ⟨rfl, right, h, rfl⟩

end Group

mutual
theorem Group.isExact_toJson (g : Group) (h : ∀ c ∈ g.conditions, c.value.IsExact) : g.toJson.IsExact := by
  match g with
  | ⟨c, os, js, right⟩ =>
    obtain ⟨hos, hright⟩ := List.forall_mem_append.mp h
    obtain ⟨members, hmembers, hm⟩ := Group.exists_members ⟨c, os, js, right⟩
    rw [hmembers]
    refine .object fun m hm' => ?_
    cases hm m hm' with
    | connective => exact .text c.name
    | operands => exact .array (Operand.isExact_toJsons os hos)
    | joints cs =>
      refine .array fun j hj => ?_
      obtain ⟨c, -, rfl⟩ := List.mem_map.mp hj
      exact .text c.name
    | rightSide hg => exact Group.isExact_right right hright _ hg
termination_by structural g

theorem Operand.isExact_toJsons (os : List Operand) (h : ∀ c ∈ Group.operandConditions os, c.value.IsExact) :
    ∀ j ∈ Operand.toJsons os, j.IsExact := by
  match os with
  | [] => exact fun j hj => absurd hj List.not_mem_nil
  | o :: rest =>
    obtain ⟨ho, hrest⟩ := List.forall_mem_append.mp h
    exact List.forall_mem_cons.mpr ⟨Operand.isExact_toJson o ho, Operand.isExact_toJsons rest hrest⟩
termination_by structural os

theorem Operand.isExact_toJson (o : Operand) (h : ∀ c ∈ o.conditions, c.value.IsExact) : o.toJson.IsExact := by
  match o with
  | .condition c => exact Condition.isExact_toJson (h c List.mem_cons_self)
  | .group g => exact Group.isExact_toJson g h
termination_by structural o

theorem Group.isExact_right (right : Option Group) (h : ∀ c ∈ Group.rightConditions right, c.value.IsExact) :
    ∀ g, right = some g → g.toJson.IsExact := by
  match right with
  | none => exact nofun
  | some g =>
    intro g' hg'
    obtain rfl := Option.some.inj hg'
    exact Group.isExact_toJson g h
termination_by structural right
end

theorem Group.isExact_rightSide {g right : Group} (h : ∀ c ∈ g.conditions, c.value.IsExact)
    (hright : g.rightSide = some right) : ∀ c ∈ right.conditions, c.value.IsExact := by
  obtain ⟨c, os, js, right'⟩ := g
  obtain rfl : right' = some right := hright
  exact (List.forall_mem_append.mp h).2

/-! ### Reading where the filter stands -/

namespace LooseReading

open Json

/-- A member is read by the reader of its name. -/
theorem member_compactMember {readers : String → Option (Reader Json)} {reader : Reader Json} (m : String × Json)
    (hreader : readers m.1 = some reader) (rest : List Char) : member readers (compactMember m ++ rest) =
      (reader (m.2.compactChars ++ rest)).map fun (j, more) => (some (m.1, j), more) := by
  rw [compactMember_append]
  unfold member
  simp only [skip_cons (show isSpace '"' = false from rfl), stringTail_escaped, Option.bind_eq_bind, Option.bind_some,
    skip_cons (show isSpace ':' = false from rfl), hreader]

theorem group_brace (d : Nat) (cs : List Char) : group (d + 1) ('\x7b' :: cs) =
    object (fun name =>
      if groupNames.contains name then some (Json.value d)
      else if name == rightSideName then some (group d)
      else none) cs := by
  simp only [group, skip_cons (show isSpace '\x7b' = false from rfl)]

/-- A group is read from its text on one line, whatever follows it, exactly if it is not too deep. -/
theorem group_compactChars {g : Group} (hg : ∀ c ∈ g.conditions, c.value.IsExact) (d : Nat) {rest : List Char}
    (hr : Ends rest) :
    group d (g.toJson.compactChars ++ rest) = if g.toJson.depth ≤ d then some (g.toJson, rest) else none := by
  have hexact := Group.isExact_toJson g hg
  induction d generalizing g rest with
  | zero => exact value_compactChars hexact 0 hr
  | succ d ih =>
    obtain ⟨members, hmembers, hm⟩ := g.exists_members
    rw [hmembers] at hexact ⊢
    cases hexact with
    | object hexact =>
      have hitem : ∀ m ∈ members, ∀ rest, Ends rest → member (fun name =>
          if groupNames.contains name then some (Json.value d)
          else if name == rightSideName then some (group d)
          else none) (compactMember m ++ rest) = if decide (m.2.depth ≤ d) then some (some m, rest) else none := by
        intro m hm' rest hr
        rcases (hm m hm').name with hname | ⟨hname, right, hright, hvalue⟩
        · have hcontains : groupNames.contains m.1 = true := List.contains_iff_mem.mpr hname
          rw [member_compactMember m (if_pos hcontains), value_compactChars (hexact m hm') d hr]
          by_cases hdepth : m.2.depth ≤ d <;> simp [hdepth]
        · have hcontains : ¬groupNames.contains m.1 = true := by
            rw [hname]
            decide
          have hexact' := hexact m hm'
          rw [member_compactMember m ((if_neg hcontains).trans (if_pos (beq_iff_eq.mpr hname)))]
          rw [hvalue] at hexact' ⊢
          rw [ih (Group.isExact_rightSide hg hright) hr hexact', ← hvalue]
          by_cases hdepth : m.2.depth ≤ d <;> simp [hdepth]
      rw [compactChars_object, group_brace, object,
        listed_commaJoined (.inr rfl) (fun m _ => start_of_member m) hitem, all_depth_members]
      by_cases hdepth : (Json.object members).depth ≤ d + 1
      · simp [hdepth, List.filterMap_map]
      · simp [hdepth]

end LooseReading

/-! ### Whole texts -/

theorem Json.readChars_compactChars {j : Json} (hj : j.IsExact) :
    readChars j.compactChars = if j.depth ≤ maxDepth then some j else none := by
  have hvalue := value_compactChars hj maxDepth ends_nil
  rw [List.append_nil] at hvalue
  rw [readChars, whole, hvalue]
  by_cases hdepth : j.depth ≤ maxDepth
  · rw [if_pos hdepth, if_pos hdepth]
    rfl
  · rw [if_neg hdepth, if_neg hdepth]

/-- Nothing is trimmed from an array or an object. -/
theorem Json.trim_compactChars {j : Json} (hj : (∃ items, j = .array items) ∨ ∃ members, j = .object members) :
    Text.trim j.compactChars = j.compactChars := by
  rcases hj with ⟨items, rfl⟩ | ⟨members, rfl⟩
  · refine Text.trim_eq_self (notLed_cons.mpr rfl) ?_
    rw [compactChars, List.reverse_append]
    exact notLed_cons.mpr rfl
  · refine Text.trim_eq_self (notLed_cons.mpr rfl) ?_
    rw [compactChars, List.reverse_append]
    exact notLed_cons.mpr rfl

/-- The text of an array or an object is read as that, blanks around it aside. -/
theorem Json.readChars_compact {j : Json} (hj : j.IsExact)
    (hshape : (∃ items, j = .array items) ∨ ∃ members, j = .object members) (hdepth : j.depth ≤ maxDepth) :
    readChars (Text.trim j.compact.toList) = some j := by
  rw [compact, String.toList_ofList, trim_compactChars hshape, readChars_compactChars hj, if_pos hdepth]

namespace Filter

theorem isExact_toJson {f : Filter} (h : ∀ c ∈ f.conditions, c.value.IsExact) : f.toJson.IsExact := by
  cases f with
  | empty => exact .null
  | simple cs =>
    refine .array fun j hj => ?_
    obtain ⟨c, hc, rfl⟩ := List.mem_map.mp hj
    exact Condition.isExact_toJson (h c hc)
  | complex g => exact Group.isExact_toJson g h

theorem trim_compactChars (f : Filter) : Text.trim f.toJson.compactChars = f.toJson.compactChars := by
  cases f with
  | empty => rfl
  | simple cs => exact Json.trim_compactChars (.inl ⟨_, rfl⟩)
  | complex g =>
    obtain ⟨members, hmembers, -⟩ := g.exists_members
    exact Json.trim_compactChars (.inr ⟨members, hmembers⟩)

/-- The text of a list of conditions is read as the list, unless it is too deep. -/
theorem readSimple_compact {cs : List Condition} (hexact : ∀ c ∈ cs, c.value.IsExact)
    (hcanonical : ∀ c ∈ cs, c.value.IsCanonical) (hdepth : (simple cs).toJson.depth ≤ Json.maxDepth) :
    readSimple (simple cs).toJson.compact = .ok (simple cs) := by
  have hj : (simple cs).toJson.IsExact := isExact_toJson hexact
  rw [readSimple, readWith, Json.compact, String.toList_ofList, trim_compactChars, Json.readChars_compactChars hj,
    if_pos hdepth]
  simp only [ofSimple_toJson hcanonical]

/-- The text of a group is read as the group exactly if it is not too deep, and is no document for its
    reader otherwise. -/
theorem readComplex_compact {g : Group} (hexact : ∀ c ∈ g.conditions, c.value.IsExact)
    (hcanonical : ∀ c ∈ g.conditions, c.value.IsCanonical) :
    readComplex (complex g).toJson.compact =
      if g.toJson.depth ≤ Json.maxDepth then .ok (complex g) else .error (.malformed .notJson) := by
  have hj := Group.isExact_toJson g hexact
  have htrim : Text.trim g.toJson.compactChars = g.toJson.compactChars := trim_compactChars (complex g)
  have hloose := LooseReading.group_compactChars hexact Json.maxDepth Json.ends_nil
  rw [List.append_nil] at hloose
  rw [readComplex, readWith, Json.compact, String.toList_ofList, toJson, htrim, Json.readChars_compactChars hj]
  by_cases hdepth : g.toJson.depth ≤ Json.maxDepth
  · have hdecode : ofComplex g.toJson = .ok (complex g) := ofComplex_toJson hcanonical
    simp only [if_pos hdepth, hdecode]
  · rw [if_neg hdepth] at hloose
    simp only [if_neg hdepth, readLoosely, Json.whole, hloose]

end Filter

end RowFilter
