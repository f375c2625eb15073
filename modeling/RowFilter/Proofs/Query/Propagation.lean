import RowFilter.Proofs.Filter.Recognition
import RowFilter.Proofs.Query.Form
import RowFilter.Query.Request
import RowFilter.Query.Resolver

/-! Filters in addresses. A request that is given a filter carries that filter and no other one, whatever its
    address carried before. -/

namespace RowFilter

/-! ### Addresses -/

theorem Url.toList_withPairs (u : Url) (pairs : List (String × String)) :
    ((u.withPairs pairs).query.getD "").toList = Form.write pairs := by
  cases pairs with
  | nil => rfl
  | cons p pairs => exact String.toList_ofList

/-- The query of an address is read as the pairs that it was given. -/
theorem Url.pairs_withPairs (u : Url) (pairs : List (String × String)) : (u.withPairs pairs).pairs = pairs := by
  cases pairs with
  | nil => rfl
  | cons p pairs =>
    show Form.read (String.ofList (Form.write (p :: pairs))).toList = p :: pairs
    rw [String.toList_ofList, Form.read_write]

/-! ### Parameters among pairs -/

namespace Parameters

variable {others : List (String × String)}

theorem ofQuery_withPairs (u : Url) (pairs : List (String × String)) :
    ofQuery ((u.withPairs pairs).query.getD "") = ofPairs pairs := by
  have hmark : (Form.write pairs).dropWhile (· == '?') = Form.write pairs :=
    show ([] ++ Form.write pairs).dropWhile (· == '?') = Form.write pairs from
      (Form.notLed_write pairs).dropWhile_append (List.forall_mem_nil _)
  rw [ofQuery, Url.toList_withPairs, hmark, Form.read_write]

theorem repeated?_filter (seen : List String) (pairs : List (String × String)) :
    repeated? seen (pairs.filter fun p => Request.isFilterName p.1) = repeated? seen pairs := by
  induction pairs generalizing seen with
  | nil => rfl
  | cons p pairs ih =>
    cases hp : Request.isFilterName p.1 with
    | true =>
      have hname : p.1 = Filter.simpleName ∨ p.1 = Filter.complexName := by
        simpa [Request.isFilterName] using hp
      rw [List.filter_cons, if_pos hp, repeated?, repeated?, if_pos hname, if_pos hname, ih]
    | false =>
      have hname : ¬(p.1 = Filter.simpleName ∨ p.1 = Filter.complexName) := by
        simpa [Request.isFilterName] using hp
      rw [List.filter_cons, if_neg (Bool.eq_false_iff.mp hp), ih, repeated?, if_neg hname]

theorem valuesOf_filter {name : String} (hname : Request.isFilterName name = true)
    (pairs : List (String × String)) :
    valuesOf name (pairs.filter fun p => Request.isFilterName p.1) = valuesOf name pairs := by
  rw [valuesOf, valuesOf, List.filter_filter]
  congr 1
  refine List.filter_congr fun p _ => ?_
  cases hp : p.1 == name with
  | true => rw [eq_of_beq hp, hname, Bool.and_true]
  | false => rfl

/-- Pairs that carry no filter are passed over. -/
theorem ofPairs_filter (pairs : List (String × String)) :
    ofPairs (pairs.filter fun p => Request.isFilterName p.1) = ofPairs pairs := by
  rw [ofPairs, repeated?_filter, valuesOf_filter rfl, valuesOf_filter rfl, ofPairs]

theorem ofPairs_append (h : ∀ p ∈ others, Request.isFilterName p.1 = false) (pairs : List (String × String)) :
    ofPairs (others ++ pairs) = ofPairs pairs := by
  have hnone : others.filter (fun p => Request.isFilterName p.1) = [] :=
    List.filter_eq_nil_iff.mpr fun p hp => Bool.eq_false_iff.mp (h p hp)
  rw [← ofPairs_filter, List.filter_append, hnone, List.nil_append, ofPairs_filter]

end Parameters

theorem Request.isFilterName_otherPairs {pairs : List (String × String)} :
    ∀ p ∈ otherPairs pairs, isFilterName p.1 = false := by
  intro p hp
  simpa using (List.mem_filter.mp hp).2

/-! ### Requests -/

namespace Resolver

theorem resolve_simple (s : String) (complex : Option String) :
    standard.resolve ⟨some s, complex⟩ = Adapter.orEmpty (Filter.readSimple s) :=
  rfl

theorem resolve_complex (s : String) : standard.resolve ⟨none, some s⟩ = Adapter.orEmpty (Filter.readComplex s) :=
  rfl

/-- The parameter that carries a filter is resolved to the filter. -/
theorem resolve_parameter {f : Filter} (h : ∀ c ∈ f.conditions, c.value.IsKept)
    (hdepth : f.toJson.depth ≤ Json.maxDepth) :
    ∃ p, Parameters.ofPairs f.parameter?.toList = .ok p ∧ standard.resolve p = f := by
  have hexact : ∀ c ∈ f.conditions, c.value.IsExact := fun c hc => (h c hc).isExact
  have hcanonical : ∀ c ∈ f.conditions, c.value.IsCanonical := fun c hc => (h c hc).canonical
  cases f with
  | empty => exact ⟨⟨none, none⟩, rfl, rfl⟩
  | simple cs =>
    have hread : Filter.readSimple (Filter.simple cs).toJson.compact = .ok (.simple cs) :=
      Filter.readSimple_compact hexact hcanonical hdepth
    refine ⟨⟨some (Filter.simple cs).toJson.compact, none⟩, rfl, ?_⟩
    rw [resolve_simple, hread, Adapter.orEmpty]
  | complex g =>
    have hread : Filter.readComplex (Filter.complex g).toJson.compact = .ok (.complex g) :=
      (Filter.readComplex_compact hexact hcanonical).trans (if_pos hdepth)
    refine ⟨⟨none, some (Filter.complex g).toJson.compact⟩, rfl, ?_⟩
    rw [resolve_complex, hread, Adapter.orEmpty]

end Resolver

/-- A request that is given a filter is resolved to that filter. -/
theorem Request.resolveQuery_withFilter (r : Request) {f : Filter} (h : ∀ c ∈ f.conditions, c.value.IsKept)
    (hdepth : f.toJson.depth ≤ Json.maxDepth) :
    Resolver.standard.resolveQuery ((r.withFilter f).url.query.getD "") = f := by
  obtain ⟨p, hp, hresolve⟩ := Resolver.resolve_parameter h hdepth
  have hquery : Parameters.ofQuery ((r.withFilter f).url.query.getD "") = .ok p := by
    rw [withFilter, Parameters.ofQuery_withPairs, Parameters.ofPairs_append isFilterName_otherPairs, hp]
  rw [Resolver.resolveQuery, hquery]
  exact hresolve

/-- An address with two filters, one of them under an encoded name, and a filter whose texts have marks of
    query strings in them. -/
theorem Request.resolveQuery_withFilter_replaced :
    let r : Request := ⟨"GET", ⟨"https", "", none, .name "example.com", none, "/items",
      some "page=2&%66ilter=%5B%5D&complexFilter=old", none⟩, [], .null⟩
    let f : Filter := .complex (.uniform .or [.condition ⟨"name", .compare .eq, .text "a&b = c+d?é%"⟩,
      .condition ⟨"size", .member true, .array [.number (.integer (-1)), .null]⟩])
    (∀ c ∈ f.conditions, c.value.IsKept) ∧ f.toJson.depth ≤ Json.maxDepth ∧
      Resolver.standard.resolveQuery ((r.withFilter f).url.query.getD "") = f := by
  intro r f
  have hlist : Json.IsKept (.array [.number (.integer (-1)), .null]) := by
    refine ⟨rfl, .array (List.forall_mem_cons.mpr ⟨.number ⟨by decide, by decide⟩, ?_⟩)⟩
    exact List.forall_mem_singleton.mpr .null
  have h : ∀ c ∈ f.conditions, c.value.IsKept :=
    List.forall_mem_cons.mpr ⟨⟨rfl, .text _⟩, List.forall_mem_singleton.mpr hlist⟩
  have hdepth : f.toJson.depth ≤ Json.maxDepth := by decide
  exact ⟨h, hdepth, resolveQuery_withFilter r h hdepth⟩

end RowFilter
