import RowFilter.Proofs.Filter.ReadingOrder
import RowFilter.Proofs.Filter.Text
import RowFilter.Proofs.Json.WellFormed

/-! The readers of one form and the reader of either form agree on a document whenever its form is told from its
    shape in the same way: an array is no group, and an object with operations is no condition. The readers of one
    form alone go on where a member that they pass over keeps the text from being read as a document. -/

namespace RowFilter.Filter

open Success Decoding MemberOrder

theorem isGroup_eq_false {members : List (String × Json)} (h : (Json.object members).member? "operations" = none)
    (h' : (Json.object members).member? "groupOperations" = none) : isGroup members = false := by
  have h : Keyed.find? "operations" members = none := h
  have h' : Keyed.find? "groupOperations" members = none := h'
  rw [isGroup, Keyed.has_eq_isSome, Keyed.has_eq_isSome, h, h']
  rfl

/-- What is read as conditions is read as the same ones in either form, unless it looks like a group. -/
theorem ofEither_of_ofSimple {j : Json} {f : Filter} (h : ofSimple j = .ok f)
    (hoperations : j.member? "operations" = none) (hgroupOperations : j.member? "groupOperations" = none) :
    ofEither j = .ok f := by
  match j with
  | .null => exact h
  | .array items =>
    obtain ⟨cs, hcs, rfl⟩ := map_eq_ok_iff.mp h
    have hcs : items.mapM (condition .sorted) = .ok cs := mapM_of_forall (fun j _ c => condition_order (.inl rfl)) hcs
    rw [ofEither, hcs]
    rfl
  | .object members =>
    obtain ⟨c, hc, rfl⟩ := map_eq_ok_iff.mp h
    have hc : condition .sorted (.object members) = .ok c := condition_order (.inl rfl) hc
    rw [ofEither, isGroup_eq_false hoperations hgroupOperations, if_neg Bool.false_ne_true, hc]
    rfl
  | .bool _ | .number _ | .text _ => cases h

/-- What is read as a group is read as the same one in either form, unless it is an array. -/
theorem ofEither_of_ofComplex {j : Json} {f : Filter} (h : ofComplex j = .ok f)
    (harray : ∀ items, j ≠ .array items) : ofEither j = .ok f := by
  match j with
  | .null => exact h
  | .array items => exact absurd rfl (harray items)
  | .object members =>
    obtain ⟨g, hg, rfl⟩ := map_eq_ok_iff.mp h
    have hg' : group .sorted (.object members) = .ok g := group_order (.inl rfl) hg
    rw [ofEither, isGroup_of_groupOfParts hg, if_pos rfl, hg']
    rfl
  | .bool _ | .number _ | .text _ => cases h

/-- What is read in either form from objects that repeat no name is read in the form that it has. -/
theorem exists_of_ofEither {j : Json} {f : Filter} (hj : j.HasDistinctNames) (h : ofEither j = .ok f) :
    (j = .null ∧ f = empty) ∨ (∃ cs, f = simple cs ∧ ofSimple j = .ok f) ∨
      (∃ g, f = complex g ∧ ofComplex j = .ok f) := by
  have hsorted : LosesNothing .sorted j := .inr hj
  match j with
  | .null =>
    cases h
    exact .inl ⟨rfl, rfl⟩
  | .array items =>
    obtain ⟨cs, hcs, rfl⟩ := map_eq_ok_iff.mp h
    have hcs : items.mapM (condition .written) = .ok cs :=
      mapM_of_forall (fun j hj c => condition_order (hsorted.item hj)) (mapError_eq_ok_iff.mp hcs)
    refine .inr (.inl ⟨cs, rfl, ?_⟩)
    rw [ofSimple, hcs]
    rfl
  | .object members =>
    rw [ofEither] at h
    split at h
    · obtain ⟨g, hg, rfl⟩ := map_eq_ok_iff.mp h
      have hg : group .written (.object members) = .ok g := group_order hsorted (mapError_eq_ok_iff.mp hg)
      refine .inr (.inr ⟨g, rfl, ?_⟩)
      show complex <$> group .written (.object members) = .ok (complex g)
      rw [hg]
      rfl
    · obtain ⟨c, hc, rfl⟩ := map_eq_ok_iff.mp h
      have hc : condition .written (.object members) = .ok c := condition_order hsorted (mapError_eq_ok_iff.mp hc)
      refine .inr (.inl ⟨[c], rfl, ?_⟩)
      show (fun c => simple [c]) <$> condition .written (.object members) = .ok (simple [c])
      rw [hc]
      rfl
  | .bool _ | .number _ | .text _ => cases h

theorem readWith_eq_ok_iff {order : MemberOrder} {reader : Reader Json} {decode : Json → Except ShapeError Filter}
    {s : String} {j : Json} {f : Filter} (hj : Json.readChars (Text.trim s.toList) = some j) :
    readWith order reader decode s = .ok f ↔ decode j = .ok f := by
  simp only [readWith, hj]
  cases decode j <;> simp

section
variable {s : String} (h : Json.readChars (Text.trim s.toList) = none)
include h

/-- The reader of either form takes documents only. -/
theorem read_of_readChars_eq_none : read s = .error (.malformed .notJson) := by
  rw [read, readWith]
  simp only [h]
  rfl

/-- The readers of one form read what stands in the text but for the members that they pass over. -/
theorem readWith_of_readChars_eq_none {order : MemberOrder} {reader : Reader Json}
    {decode : Json → Except ShapeError Filter} {j : Json} {f : Filter}
    (hj : Json.whole reader (Text.trim s.toList) = some j) (hf : decode j = .ok f) :
    readWith order reader decode s = .ok f := by
  rw [readWith]
  simp only [h, readLoosely, hj, hf]

end

/-- On a text that is a document the readers agree. What the reader of conditions reads, the reader of either form
    reads as well, unless the document is an object with operations; what the reader of groups reads, it reads
    unless the document is an array. If no object in the document repeats a name, what the reader of either form
    reads is what the reader of its form reads, and nothing is nothing to all three. -/
theorem readers_agree {s : String} {j : Json} (hj : Json.readChars (Text.trim s.toList) = some j) :
    (∀ f, readSimple s = .ok f → j.member? "operations" = none → j.member? "groupOperations" = none →
      read s = .ok f) ∧
    (∀ f, readComplex s = .ok f → (∀ items, j ≠ .array items) → read s = .ok f) ∧
    (j.HasDistinctNames →
      (∀ cs, read s = .ok (simple cs) → readSimple s = .ok (simple cs)) ∧
      (∀ g, read s = .ok (complex g) → readComplex s = .ok (complex g)) ∧
      (read s = .ok empty → readSimple s = .ok empty ∧ readComplex s = .ok empty)) := by
  have hsimple : ∀ f, readSimple s = .ok f ↔ ofSimple j = .ok f := fun _ => readWith_eq_ok_iff hj
  have hcomplex : ∀ f, readComplex s = .ok f ↔ ofComplex j = .ok f := fun _ => readWith_eq_ok_iff hj
  have heither : ∀ f, read s = .ok f ↔ ofEither j = .ok f := fun _ => readWith_eq_ok_iff hj
  simp only [hsimple, hcomplex, heither]
  refine ⟨fun f => ofEither_of_ofSimple, fun f => ofEither_of_ofComplex, fun hnames => ⟨?_, ?_, ?_⟩⟩
  · intro cs h
    obtain ⟨-, hf⟩ | ⟨_, -, h⟩ | ⟨_, hf, -⟩ := exists_of_ofEither hnames h
    · cases hf
    · exact h
    · cases hf
  · intro g h
    obtain ⟨-, hf⟩ | ⟨_, hf, -⟩ | ⟨_, -, h⟩ := exists_of_ofEither hnames h
    · cases hf
    · cases hf
    · exact h
  · intro h
    obtain ⟨rfl, -⟩ | ⟨_, hf, -⟩ | ⟨_, hf, -⟩ := exists_of_ofEither hnames h
    · exact ⟨rfl, rfl⟩
    · cases hf
    · cases hf

/-- Conditions among whose members are others that repeat, one of them an array, and a group with the other names
    of its parts are read in either form; a condition whose members stand in no order, read so, is read from
    the list. -/
theorem readers_agree_repeated :
    let listed : Json := .array [.object [("note", .null), ("value", .object [("y", .null), ("x", .text "1"),
      ("y", .text "2")]), ("operator", .text "="), ("field", .text "a"), ("note", .array [])],
      .array [.text "b", .text "NULL"]]
    let grouped : Json := .object [("note", .array []), ("rightSideOperands", .array [.text "and", .array []]),
      ("groupOperations", .array [.array [.text "c", .text "in", .array [.text "1"]]]),
      ("groupOperator", .text "|"), ("note", .null)]
    let single : Json := .object [("value", .text "1"), ("operator", .text ">"), ("field", .text "d")]
    let cs : List Condition := [⟨"a", .compare .eq, .object [("x", .text "1"), ("y", .text "2")]⟩,
      ⟨"b", .null true, .null⟩]
    let g : Group := ⟨.or, [.condition ⟨"c", .member true, .array [.text "1"]⟩], none, some (.uniform .and [])⟩
    read listed.compact = .ok (simple cs) ∧ read grouped.compact = .ok (complex g) ∧
      readSimple single.compact = .ok (simple [⟨"d", .compare .gt, .text "1"⟩]) := by
  intro listed grouped single cs g
  have hlisted : Json.readChars (Text.trim listed.compact.toList) = some listed :=
    Json.readChars_compact (by simp [listed]) (.inl ⟨_, rfl⟩) (by decide)
  have hgrouped : Json.readChars (Text.trim grouped.compact.toList) = some grouped :=
    Json.readChars_compact (by simp [grouped]) (.inr ⟨_, rfl⟩) (by decide)
  have hsingle : Json.readChars (Text.trim single.compact.toList) = some single :=
    Json.readChars_compact (by simp [single]) (.inr ⟨_, rfl⟩) (by decide)
  have hnames : single.HasDistinctNames := by
    refine .object (by decide) (List.forall_mem_cons.mpr ⟨.text _, List.forall_mem_cons.mpr ⟨.text _, ?_⟩⟩)
    exact List.forall_mem_singleton.mpr (.text _)
  have hsimple : readSimple listed.compact = .ok (simple cs) := (readWith_eq_ok_iff hlisted).mpr rfl
  have hcomplex : readComplex grouped.compact = .ok (complex g) := (readWith_eq_ok_iff hgrouped).mpr rfl
  have heither : read single.compact = .ok (simple [⟨"d", .compare .gt, .text "1"⟩]) :=
    (readWith_eq_ok_iff hsingle).mpr rfl
  exact ⟨(readers_agree hlisted).1 _ hsimple rfl rfl, (readers_agree hgrouped).2.1 _ hcomplex nofun,
    ((readers_agree hsingle).2.2 hnames).1 _ heither⟩

/-- A text that is a document by its form may have a number past all doubles in a member that is passed over. Then
    the reader of conditions reads the conditions, or the reader of groups the group, and the reader of either form
    refuses the text. -/
theorem readers_not_agree :
    let single := "\x7b\"field\":\"a\",\"operator\":\"eq\",\"value\":1,\"note\":1e999\x7d"
    let grouped := "\x7b\"operator\":\"AND\",\"operations\":[],\"note\":1e999\x7d"
    (Json.IsWellFormed single.toList ∧ readSimple single = .ok (simple [⟨"a", .compare .eq, .number (.integer 1)⟩]) ∧
      read single = .error (.malformed .notJson)) ∧
    (Json.IsWellFormed grouped.toList ∧ readComplex grouped = .ok (complex ⟨.and, [], none, none⟩) ∧
      read grouped = .error (.malformed .notJson)) := by
  intro single grouped
  have hsingle : Json.readChars (Text.trim single.toList) = none := by decide +kernel
  have hgrouped : Json.readChars (Text.trim grouped.toList) = none := by decide +kernel
  have hcondition : Json.whole (LooseReading.conditions Json.maxDepth) (Text.trim single.toList) =
      some (.object [("field", .text "a"), ("operator", .text "eq"), ("value", .number (.integer 1))]) := by
    decide +kernel
  have hgroup : Json.whole (LooseReading.group Json.maxDepth) (Text.trim grouped.toList) =
      some (.object [("operator", .text "AND"), ("operations", .array [])]) := by decide +kernel
  refine ⟨⟨⟨1, by decide +kernel⟩, ?_, ?_⟩, ⟨⟨2, by decide +kernel⟩, ?_, ?_⟩⟩
  · exact readWith_of_readChars_eq_none hsingle hcondition rfl
  · exact read_of_readChars_eq_none hsingle
  · exact readWith_of_readChars_eq_none hgrouped hgroup rfl
  · exact read_of_readChars_eq_none hgrouped

end RowFilter.Filter
