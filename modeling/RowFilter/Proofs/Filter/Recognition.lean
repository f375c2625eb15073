import RowFilter.Proofs.Filter.Text
import RowFilter.Proofs.Json.AllNumbers

/-! A filter is recognised from the text in which it is written: which form it has, which operands are
    groups, values that are null and parts that are absent all come back from the shape of the document,
    whatever the values of its conditions look like. -/

namespace RowFilter.Filter

/-- The text of a filter is read as that filter exactly if it is not deeper than documents may be, and is no
    document otherwise. -/
theorem read_compact {f : Filter} (h : ∀ c ∈ f.conditions, c.value.IsKept) :
    read f.toJson.compact = if f.toJson.depth ≤ Json.maxDepth then .ok f else .error (.malformed .notJson) := by
  have hj : f.toJson.IsExact := isExact_toJson fun c hc => (h c hc).isExact
  have hdecode : ofEither f.toJson = .ok f := ofEither_toJson fun c hc => (h c hc).canonical
  rw [read, readWith, Json.compact, String.toList_ofList, trim_compactChars, Json.readChars_compactChars hj]
  by_cases hdepth : f.toJson.depth ≤ Json.maxDepth
  · simp only [if_pos hdepth, hdecode]
  · rw [if_neg hdepth, if_neg hdepth]
    rfl

/-- A value that looks like a group, the greatest integer, the double next to zero, no value at all, and a group
    without operands that lists no connectives. -/
theorem read_compact_nested :
    let lookalike : Json := .object [("operations", .array [.number (.double (.finite true 1))]),
      ("operator", .text "AND")]
    let f : Filter := .complex ⟨.or, [.condition ⟨"a.b", .compare .eq, lookalike⟩, .group ⟨.and, [], some [], none⟩],
      some [.and, .or], some (.uniform .and [.condition ⟨"operations", .null true, .null⟩,
        .condition ⟨"", .member false, .array [.number (.integer (2 ^ 64 - 1)), .bool true]⟩])⟩
    (∀ c ∈ f.conditions, c.value.IsKept) ∧ f.toJson.depth ≤ Json.maxDepth ∧ read f.toJson.compact = .ok f := by
  intro lookalike f
  have hdouble : JsonNumber.IsKept (.double (.finite true 1)) :=
    show Json.numberText? (Json.numberText (.double (.finite true 1))) =
      some (.double (.finite true 1), []) from by decide +kernel
  have hlookalike : lookalike.IsKept := by
    refine ⟨rfl, .object (List.forall_mem_cons.mpr ⟨?_, List.forall_mem_singleton.mpr (.text "AND")⟩)⟩
    exact .array (List.forall_mem_singleton.mpr (.number hdouble))
  have hlist : Json.IsKept (.array [.number (.integer (2 ^ 64 - 1)), .bool true]) := by
    refine ⟨rfl, .array (List.forall_mem_cons.mpr ⟨.number ⟨by decide, by decide⟩, ?_⟩)⟩
    exact List.forall_mem_singleton.mpr (.bool true)
  have h : ∀ c ∈ f.conditions, c.value.IsKept := by
    refine List.forall_mem_cons.mpr ⟨hlookalike, List.forall_mem_cons.mpr ⟨⟨rfl, .null⟩, ?_⟩⟩
    exact List.forall_mem_singleton.mpr hlist
  have hdepth : f.toJson.depth ≤ Json.maxDepth := by decide
  refine ⟨h, hdepth, ?_⟩
  rw [read_compact h, if_pos hdepth]

end RowFilter.Filter
