import RowFilter.Command.Run
import RowFilter.Proofs.Query.Propagation

/-! Parameters read from a query string that carries others as well. The parts of the parameters stand
    among parts that carry no filter, in any encoding, and question marks may lead the whole. What is read is
    what was written; and the filter is the one that a command takes from the same texts, except that a text
    that cannot be read is no filter here. -/

namespace RowFilter

namespace Form

/-- The part is a parameter that carries a filter. -/
def carriesFilter (part : List Char) : Bool :=
  Request.isFilterName (readPair part).1

theorem not_isEmpty_of_carriesFilter {part : List Char} (h : carriesFilter part = true) : (!part.isEmpty) = true := by
  cases part with
  | nil => cases h
  | cons c part => rfl

/-- The pairs of a query string that carry filters are those of its parts that do. -/
theorem filter_read_intercalate {parts : List (List Char)} (h : ∀ part ∈ parts, '&' ∉ part) :
    (read (['&'].intercalate parts)).filter (fun p => Request.isFilterName p.1) =
      (parts.filter carriesFilter).map readPair := by
  rw [read_intercalate h, List.filter_map, List.filter_filter]
  congr 1
  refine List.filter_congr fun part _ => ?_
  cases hpart : carriesFilter part with
  | true => exact Bool.and_eq_true_iff.mpr ⟨hpart, not_isEmpty_of_carriesFilter hpart⟩
  | false => exact Bool.and_eq_false_iff.mpr (.inl hpart)

end Form

namespace Parameters

/-- Parts of a query string: those of the parameters as they are written, and others that carry no filter
    between them. -/
structure IsAmong (p : Parameters) (parts : List (List Char)) : Prop where
  /-- No part has the mark in it that stands between parts. -/
  separate : ∀ part ∈ parts, '&' ∉ part
  /-- The whole is not led by a question mark of its own. -/
  notLed : NotLed (· == '?') (['&'].intercalate parts)
  /-- Without the others this is the query string of the parameters. -/
  written : ['&'].intercalate (parts.filter Form.carriesFilter) = p.toQuery.toList

/-- The query string of some parts behind question marks. -/
def queryOf (n : Nat) (parts : List (List Char)) : String :=
  String.ofList (List.replicate n '?' ++ ['&'].intercalate parts)

theorem ofPairs_toPairs (p : Parameters) : ofPairs p.toPairs = .ok p := by
  obtain ⟨simple, complex⟩ := p
  cases simple <;> cases complex <;> rfl

theorem isFilterName_of_mem_toPairs {p : Parameters} {q : String × String} (h : q ∈ p.toPairs) :
    Request.isFilterName q.1 = true := by
  rcases List.mem_append.mp h with h | h
  · obtain ⟨s, -, rfl⟩ := List.mem_map.mp h
    rfl
  · obtain ⟨s, -, rfl⟩ := List.mem_map.mp h
    rfl

theorem IsAmong.filter_read {p : Parameters} {parts : List (List Char)} (h : p.IsAmong parts) :
    (Form.read (['&'].intercalate parts)).filter (fun q => Request.isFilterName q.1) =
      p.toPairs.filter fun q => Request.isFilterName q.1 := by
  have hseparate : ∀ part ∈ parts.filter Form.carriesFilter, '&' ∉ part :=
    fun part hpart => h.separate part (List.mem_filter.mp hpart).1
  have hwritten : Form.read (['&'].intercalate (parts.filter Form.carriesFilter)) = p.toPairs := by
    rw [h.written, toQuery, String.toList_ofList, Form.read_write]
  rw [← hwritten, Form.filter_read_intercalate h.separate, Form.filter_read_intercalate hseparate, List.filter_filter]
  simp only [Bool.and_self]

theorem IsAmong.ofQuery {p : Parameters} {parts : List (List Char)} (h : p.IsAmong parts) (n : Nat) :
    ofQuery (queryOf n parts) = .ok p := by
  have hmarks : (List.replicate n '?' ++ ['&'].intercalate parts).dropWhile (· == '?') = ['&'].intercalate parts :=
    h.notLed.dropWhile_append fun c hc => beq_iff_eq.mpr (List.eq_of_mem_replicate hc)
  rw [Parameters.ofQuery, queryOf, String.toList_ofList, hmarks, ← ofPairs_filter, h.filter_read, ofPairs_filter,
    ofPairs_toPairs]

/-- The parameters stand among no other parts in their own query string. -/
theorem isAmong_toPairs (p : Parameters) : p.IsAmong (p.toPairs.map Form.writePair) := by
  have hquery : ['&'].intercalate (p.toPairs.map Form.writePair) = Form.write p.toPairs :=
    (Form.write_eq_intercalate _).symm
  have hfilter : (p.toPairs.map Form.writePair).filter Form.carriesFilter = p.toPairs.map Form.writePair := by
    refine List.filter_eq_self.mpr fun part hpart => ?_
    obtain ⟨q, hq, rfl⟩ := List.mem_map.mp hpart
    rw [Form.carriesFilter, Form.readPair_writePair]
    exact isFilterName_of_mem_toPairs hq
  refine ⟨fun part hpart => ?_, ?_, ?_⟩
  · obtain ⟨q, -, rfl⟩ := List.mem_map.mp hpart
    exact Form.not_mem_writePair rfl (by decide) (by decide) (by decide) q
  · rw [hquery]
    exact Form.notLed_write _
  · rw [hfilter, hquery, toQuery, String.toList_ofList]

theorem queryOf_toPairs (p : Parameters) : queryOf 0 (p.toPairs.map Form.writePair) = p.toQuery := by
  rw [queryOf, ← Form.write_eq_intercalate, List.replicate_zero, List.nil_append, toQuery]

/-- Where a command takes the filter from that the parameters carry: from the list of conditions, else from
    the group. -/
def source : Parameters → FilterSource
  | ⟨some s, _⟩ => .simple s
  | ⟨none, some s⟩ => .complex s
  | ⟨none, none⟩ => .absent

theorem resolve_of_source {p : Parameters} {entity : Option String} {f : Filter}
    (h : Selection.filter ⟨p.source, entity⟩ = .ok f) : Resolver.standard.resolve p = f := by
  obtain ⟨simple, complex⟩ := p
  rcases simple with _ | s
  · rcases complex with _ | s
    · cases h
      rfl
    · rw [Resolver.resolve_complex, show Filter.readComplex s = .ok f from h, Adapter.orEmpty]
  · rw [Resolver.resolve_simple, show Filter.readSimple s = .ok f from h, Adapter.orEmpty]

end Parameters

theorem Resolver.resolveQuery_of_ofQuery {r : Resolver} {query : String} {p : Parameters}
    (h : Parameters.ofQuery query = .ok p) : r.resolveQuery query = r.resolve p := by
  rw [resolveQuery, h]

/-- Parameters are read from their own query string, and from any in which they stand among others. The filter
    is read from the list of conditions if there is one, else from the group, and a text that cannot be read is
    no filter, whatever else there is. So a command takes the filter from the query string that it takes from
    the text itself, if that can be read. -/
theorem Parameters.resolveQuery_isAmong {p : Parameters} {parts : List (List Char)} (h : p.IsAmong parts) (n : Nat) :
    ofQuery p.toQuery = .ok p ∧ ofQuery (queryOf n parts) = .ok p ∧
      Resolver.standard.resolveQuery p.toQuery = Resolver.standard.resolveQuery (queryOf n parts) ∧
      (∀ s, p.simple = some s →
        Resolver.standard.resolveQuery (queryOf n parts) = Adapter.orEmpty (Filter.readSimple s)) ∧
      (∀ s, p.simple = none → p.complex = some s →
        Resolver.standard.resolveQuery (queryOf n parts) = Adapter.orEmpty (Filter.readComplex s)) ∧
      (p.simple = none → p.complex = none → Resolver.standard.resolveQuery (queryOf n parts) = .empty) ∧
      ∀ entity f, Selection.filter ⟨p.source, entity⟩ = .ok f →
        Selection.filter ⟨.query (queryOf n parts), entity⟩ = .ok f := by
  have hown : ofQuery p.toQuery = .ok p := by
    rw [← queryOf_toPairs]
    exact p.isAmong_toPairs.ofQuery 0
  have hread := h.ofQuery n
  have hresolve := Resolver.resolveQuery_of_ofQuery (r := .standard) hread
  refine ⟨hown, hread, ?_, ?_, ?_, ?_, ?_⟩
  · rw [hresolve, Resolver.resolveQuery_of_ofQuery hown]
  · intro s hs
    rw [hresolve, ← Resolver.resolve_simple s p.complex, ← hs]
  · intro s hnone hs
    rw [hresolve, ← Resolver.resolve_complex, ← hnone, ← hs]
  · intro hnone hnone'
    obtain ⟨simple, complex⟩ := p
    cases hnone
    cases hnone'
    exact hresolve
  · intro entity f hf
    show Except.ok (Resolver.standard.resolveQuery (queryOf n parts)) = .ok f
    rw [hresolve, resolve_of_source hf]

/-- A list of conditions that breaks off and a group that could be read, among parts that are empty, led by a
    question mark and wrongly encoded. -/
theorem Parameters.resolveQuery_isAmong_malformed :
    let p : Parameters := ⟨some "[", some "[\"AND\",[]]"⟩
    let parts := ["page=2".toList, "filter=%5B".toList, [], "?filter=%zz".toList,
      "complexFilter=%5B%22AND%22%2C%5B%5D%5D".toList]
    p.IsAmong parts ∧ ofQuery (queryOf 2 parts) = .ok p ∧
      Resolver.standard.resolveQuery (queryOf 2 parts) = .empty := by
  intro p parts
  have hseparate : ∀ part ∈ parts, '&' ∉ part := by decide
  have h : p.IsAmong parts := ⟨hseparate, notLed_cons.mpr rfl, by decide⟩
  obtain ⟨-, hread, -, hsimple, -⟩ := resolveQuery_isAmong h 2
  have hmalformed : Adapter.orEmpty (Filter.readSimple "[") = .empty := by cbv
  exact ⟨h, hread, (hsimple "[" rfl).trans hmalformed⟩

end RowFilter
