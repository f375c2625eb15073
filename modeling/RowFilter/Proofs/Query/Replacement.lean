import RowFilter.Proofs.Query.Propagation

/-! Filters put into a request one after another. Each one takes the place of the one before it: what it leaves of the
    pairs of the query has no filter in it and is read again as it was written, so the next one leaves the same. -/

namespace RowFilter

namespace Request

variable {pairs : List (String × String)}

/-! ### Pairs that carry no filter -/

theorem otherPairs_eq_filter :
    otherPairs pairs = pairs.filter fun p => p.1 ≠ "filter" ∧ p.1 ≠ "complexFilter" := by
  refine List.filter_congr fun p _ => ?_
  rw [isFilterName, Bool.not_or, Bool.decide_and]
  exact congr (congrArg and decide_not.symm) decide_not.symm

theorem otherPairs_append (more : List (String × String)) :
    otherPairs (pairs ++ more) = otherPairs pairs ++ otherPairs more :=
  List.filter_append pairs more

theorem otherPairs_otherPairs : otherPairs (otherPairs pairs) = otherPairs pairs := by
  refine List.filter_eq_self.mpr fun p hp => ?_
  rw [isFilterName_otherPairs p hp, Bool.not_false]

theorem isFilterName_parameter {f : Filter} {p : String × String} (h : f.parameter? = some p) :
    isFilterName p.1 = true := by
  cases f with
  | empty => cases h
  | simple cs =>
    cases h
    rfl
  | complex g =>
    cases h
    rfl

theorem otherPairs_parameter (f : Filter) : otherPairs f.parameter?.toList = [] := by
  refine List.filter_eq_nil_iff.mpr fun p hp => ?_
  rw [isFilterName_parameter (Option.mem_toList.mp hp), Bool.not_true]
  exact Bool.false_ne_true

/-! ### One filter -/

theorem pairs_withFilter (r : Request) (f : Filter) :
    (r.withFilter f).url.pairs = otherPairs r.url.pairs ++ f.parameter?.toList :=
  Url.pairs_withPairs r.url _

/-- A filter leaves the same pairs for the next one as it found. -/
theorem otherPairs_withFilter (r : Request) (f : Filter) :
    otherPairs (r.withFilter f).url.pairs = otherPairs r.url.pairs := by
  rw [pairs_withFilter, otherPairs_append, otherPairs_otherPairs, otherPairs_parameter, List.append_nil]

theorem withFilter_withFilter (r : Request) (f g : Filter) : (r.withFilter f).withFilter g = r.withFilter g := by
  rw [withFilter, otherPairs_withFilter]
  rfl

theorem query_withFilter_eq_none_iff {r : Request} {f : Filter} :
    (r.withFilter f).url.query = none ↔ (r.withFilter f).url.pairs = [] := by
  rw [pairs_withFilter]
  show (if (otherPairs r.url.pairs ++ f.parameter?.toList).isEmpty then none else some _) = none ↔ _
  rw [ite_eq_left_iff, ← List.isEmpty_iff, Bool.not_eq_true]
  simp

/-! ### Filters one after another -/

theorem foldl_withFilter (r : Request) (f : Filter) (before : List Filter) :
    (before ++ [f]).foldl withFilter r = r.withFilter f := by
  induction before generalizing r with
  | nil => rfl
  | cons g before ih => rw [List.cons_append, List.foldl_cons, ih, withFilter_withFilter]

/-- Of any filters that a request is given one after another only the last one counts. The query then has the pairs
    of the request that carry no filter, followed by that of the last filter if it is not empty, and is absent if that
    leaves none; everything else is as it was. -/
theorem withFilter_last (r : Request) (before : List Filter) (f : Filter) :
    let final := (before ++ [f]).foldl withFilter r
    final = r.withFilter f ∧
    final.url.pairs = (r.url.pairs.filter fun p => p.1 ≠ "filter" ∧ p.1 ≠ "complexFilter") ++ f.parameter?.toList ∧
    f.parameter?.map Prod.fst ∈ [none, some "filter", some "complexFilter"] ∧
    (final.url.query = none ↔ final.url.pairs = []) ∧
    { final with url := { final.url with query := r.url.query } } = r := by
  intro final
  have hfinal : final = r.withFilter f := foldl_withFilter r f before
  rw [hfinal]
  refine ⟨rfl, ?_, ?_, query_withFilter_eq_none_iff, rfl⟩
  · rw [pairs_withFilter, otherPairs_eq_filter]
  · cases f with
    | empty => exact List.mem_cons_self
    | simple cs => exact List.mem_cons_of_mem _ List.mem_cons_self
    | complex g => exact List.mem_cons_of_mem _ (List.mem_cons_of_mem _ List.mem_cons_self)

end Request

end RowFilter
