import RowFilter.Proofs.Conversion.Meaning
import RowFilter.Proofs.Conversion.RoundTrip
import RowFilter.Proofs.Json.AllNumbers
import RowFilter.Proofs.Keyed

/-! The kinds in compiled predicates. Every criterion of one compares the values of its field with finite
    literals of the field's kind, by a test that means something for that kind. Such a test is decided on
    every value, so that the truth of a criterion, and then of the predicate, is unknown only where a
    field is missing or null. -/

namespace RowFilter

open Success Conversion

/-! ### Criteria of conditions -/

/-- The literals of a criterion are finite ones of its kind, and its test means something for that kind. -/
structure Criterion.WellKinded (c : Criterion) : Prop where
  kind : ∀ v ∈ c.test.literals, v.kind = c.kind
  finite : ∀ v ∈ c.test.literals, v.isFinite = true
  range : c.test.isRange = true → c.kind.isOrdered = true
  pattern : ∀ p, c.test = .like p → c.kind = .text
  list : c.test.isEmptyList = false

theorem Criterion.wellKinded_of_criterion {d : Condition} {k : Kind} {c : Criterion} (h : d.criterion k = .ok c)
    (hn : ∀ j ∈ d.values, j.isFiniteNumber = true) : c.WellKinded := by
  obtain ⟨rfl, -⟩ := of_criterion h
  refine ⟨fun v hv => ?_, fun v hv => ?_, isOrdered_of_criterion h, fun p => eq_text_of_criterion h,
    isEmptyList_of_criterion h⟩
  · obtain ⟨j, -, hj⟩ := literals_of_criterion h v hv
    exact (Literal.of_coerce hj).1
  · obtain ⟨j, hmem, hj⟩ := literals_of_criterion h v hv
    exact Literal.isFinite_of_coerced hj (hn j hmem)

/-! ### Tests on values -/

theorem Double.exists_compare {a b : Double} (ha : a.isFinite = true) (hb : b.isFinite = true) :
    ∃ o, a.compare b = some o := by
  cases a with
  | finite s u =>
    cases b with
    | finite t v => exact ⟨_, rfl⟩
    | _ => cases hb
  | _ => cases ha

/-- Finite literals of one kind are ordered. -/
theorem Literal.exists_compare {v w : Literal} (hkind : w.kind = v.kind) (hv : v.isFinite = true)
    (hw : w.isFinite = true) : ∃ o, v.compare w = some o := by
  cases v <;> cases w <;> cases hkind
  case float.float => exact Double.exists_compare hv hw
  all_goals exact ⟨_, rfl⟩

/-- A test is decided on a value that all its literals can be compared with. -/
theorem Test.exists_truth {like : String → String → Bool} {t : Test} {v : Literal}
    (h : ∀ w ∈ t.literals, ∃ o, v.compare w = some o) : ∃ b, t.truth like v = some b := by
  cases t with
  | compare c w =>
    obtain ⟨o, ho⟩ := h w (List.mem_singleton_self w)
    exact ⟨c.holds o, by rw [truth, Comparison.truth, ho, Option.map_some]⟩
  | between low high =>
    obtain ⟨o, ho⟩ := h low List.mem_cons_self
    obtain ⟨o', ho'⟩ := h high (List.mem_cons_of_mem _ (List.mem_singleton_self high))
    rw [truth, ho, ho']
    cases o with
    | lt => exact ⟨false, rfl⟩
    | eq | gt => exact ⟨o' != .gt, rfl⟩
  | _ => exact ⟨_, rfl⟩

/-! ### Criteria on rows -/

namespace Json

/-- Every number in the document has a finite double. -/
def HasFiniteNumbers (j : Json) : Prop :=
  j.AllNumbers fun n => n.toDouble.isFinite = true

theorem HasFiniteNumbers.isFiniteNumber {j : Json} (h : j.HasFiniteNumbers) : j.isFiniteNumber = true := by
  cases h with
  | number hn => exact hn
  | _ => rfl

/-- What a path leads to has no other numbers than the document where it starts. -/
theorem AllNumbers.follow {P : JsonNumber → Prop} {j k : Json} {path : List String} (h : j.AllNumbers P)
    (hk : j.follow path = some k) : k.AllNumbers P := by
  induction path generalizing j with
  | nil =>
    cases hk
    exact h
  | cons name path ih =>
    rw [Json.follow] at hk
    split at hk
    · next i hi =>
      refine ih ?_ hk
      cases h with
      | object hmembers => exact hmembers _ (Keyed.mem_of_find? hi)
      | _ => cases hi
    · cases hk

theorem cell?_eq_none_iff {row : Json} {field : String} :
    row.cell? field = none ↔ row.follow (Text.segments field) = none ∨ row.follow (Text.segments field) = some .null := by
  unfold cell?
  cases row.follow (Text.segments field) with
  | none => simp
  | some j => simp

end Json

namespace Criterion

variable {like : String → String → Bool} {c : Criterion} {row : Json}

/-- The value of a row can be compared with all literals of a well-kinded criterion. -/
theorem WellKinded.exists_compare (h : c.WellKinded) (hrow : row.HasFiniteNumbers) {cell : Json} {v : Literal}
    (hcell : row.cell? c.field = some cell) (hv : c.kind.coerce cell = some v) :
    ∀ w ∈ c.test.literals, ∃ o, v.compare w = some o := by
  intro w hw
  have hcellNumbers : cell.HasFiniteNumbers := hrow.follow (Option.filter_eq_some_iff.mp hcell).1
  have hfinite : v.isFinite = true := Literal.isFinite_of_coerced hv hcellNumbers.isFiniteNumber
  exact Literal.exists_compare ((h.kind w hw).trans (Literal.of_coerce hv).1.symm) hfinite (h.finite w hw)

/-- A test other than one for null is decided exactly on a field that is there. -/
theorem WellKinded.truth_eq_none_iff (h : c.WellKinded) (hrow : row.HasFiniteNumbers)
    (hne : ∀ b, c.test ≠ .null b) : c.truth like row = none ↔ row.cell? c.field = none := by
  cases hcell : row.cell? c.field with
  | none =>
    rw [truth_of_missing c hne hcell]
    exact ⟨fun _ => rfl, fun _ => rfl⟩
  | some cell =>
    cases hv : c.kind.coerce cell with
    | none =>
      rw [truth_of_misfit c hne hcell hv]
      exact ⟨nofun, nofun⟩
    | some v =>
      obtain ⟨b, hb⟩ : ∃ b, c.test.truth like v = some b := Test.exists_truth (h.exists_compare hrow hcell hv)
      rw [truth_of_value c hne hcell hv, hb]
      exact ⟨nofun, nofun⟩

theorem WellKinded.exists_truth (h : c.WellKinded) (hrow : row.HasFiniteNumbers)
    (hcell : row.cell? c.field ≠ none) : ∃ b, c.truth like row = some b := by
  by_cases hnull : ∃ b, c.test = .null b
  · obtain ⟨b, hb⟩ := hnull
    exact ⟨_, by rw [truth, hb]⟩
  · have hne : ∀ b, c.test ≠ .null b := not_exists.mp hnull
    exact Option.ne_none_iff_exists'.mp fun hnone => hcell ((h.truth_eq_none_iff hrow hne).mp hnone)

end Criterion

/-! ### Predicates on rows -/

theorem Truth.exists_combine (c : Connective) (a b : Bool) : ∃ d, combine c (some a) (some b) = some d := by
  cases c <;> cases a <;> cases b <;> exact ⟨_, rfl⟩

/-- Joined criteria are decided together if each of them is. -/
theorem Predicate.IsJoined.exists_truth {like : String → String → Bool} {row : Json} {p : Predicate} (hp : p.IsJoined)
    (h : ∀ c ∈ p.criteria, ∃ b, c.truth like row = some b) : ∃ b, p.truth like row = some b := by
  induction hp with
  | leaf c => exact h c (List.mem_singleton_self c)
  | join _ _ ihl ihr =>
    obtain ⟨hl, hr⟩ := List.forall_mem_append.mp h
    obtain ⟨a, ha⟩ := ihl hl
    obtain ⟨b, hb⟩ := ihr hr
    rw [truth, ha, hb]
    exact Truth.exists_combine _ a b

theorem Predicate.holds_negation {row : Json} {p : Predicate} {b : Bool} (h : p.truth Pattern.matchText row = some b) :
    (negation p).holds row = !p.holds row := by
  rw [holds, holds, truth, h]
  cases b <;> rfl

/-- Every criterion of a compiled filter has the kind that its field resolves to and is well-kinded. On any row
    it is unknown, other than a test for null, exactly if its field is missing or null there; where all fields
    of the filter are there, either the predicate holds or its negation. -/
theorem Schema.wellKinded_of_compile {s : Schema} {entity : String} {f : Filter} {p : Predicate}
    (hn : ∀ d ∈ f.conditions, ∀ j ∈ d.values, j.isFiniteNumber = true) (hc : s.compile entity f = .ok p) :
    (∀ c ∈ p.criteria, s.resolve entity c.field = .ok c.kind ∧ c.WellKinded) ∧
      ∀ row : Json, row.HasFiniteNumbers →
        (∀ c ∈ p.criteria, (∀ b, c.test ≠ .null b) → (c.truth Pattern.matchText row = none ↔
          row.follow (Text.segments c.field) = none ∨ row.follow (Text.segments c.field) = some .null)) ∧
        ((∀ d ∈ f.conditions, ∃ j, row.follow (Text.segments d.field) = some j ∧ j ≠ .null) →
          (Predicate.negation p).holds row = !p.holds row) := by
  have hcriterion : ∀ c ∈ p.criteria, ∃ d ∈ f.conditions, c.field = d.field ∧
      s.resolve entity c.field = .ok c.kind ∧ c.WellKinded := by
    intro c hmem
    obtain ⟨d, hd, k, hk, hdc⟩ := exists_condition_of_criteria hc hmem
    obtain ⟨rfl, hfield⟩ := Criterion.of_criterion hdc
    refine ⟨d, hd, hfield, ?_, Criterion.wellKinded_of_criterion hdc (hn d hd)⟩
    unfold kindOf at hk
    split at hk
    · next hresolve =>
      cases hk
      rw [hfield, hresolve]
    · cases hk
  refine ⟨fun c hmem => ?_, fun row hrow => ⟨fun c hmem hne => ?_, fun hthere => ?_⟩⟩
  · obtain ⟨-, -, -, hresolve, hwell⟩ := hcriterion c hmem
    exact ⟨hresolve, hwell⟩
  · obtain ⟨-, -, -, -, hwell⟩ := hcriterion c hmem
    exact (hwell.truth_eq_none_iff hrow hne).trans Json.cell?_eq_none_iff
  · have hdecided : ∃ b, p.truth Pattern.matchText row = some b := by
      obtain rfl | hjoined := (criteria_of_ofFilter hc).1
      · exact ⟨true, rfl⟩
      · refine hjoined.exists_truth fun c hmem => ?_
        obtain ⟨d, hd, hfield, -, hwell⟩ := hcriterion c hmem
        obtain ⟨j, hj, hne⟩ := hthere d hd
        refine hwell.exists_truth hrow fun hnone => ?_
        rw [Json.cell?_eq_none_iff, hfield, hj] at hnone
        simp [hne] at hnone
    obtain ⟨b, hb⟩ := hdecided
    exact Predicate.holds_negation hb

/-- Fields of the row itself and of a related one; the related one is missing from the second row. -/
theorem Schema.wellKinded_of_compile_related :
    let s : Schema := ⟨[("item", [("name", .value .text), ("price", .value .float), ("shop", .relation "shop")]),
      ("shop", [("opened", .value .date)])]⟩
    let f : Filter := .simple [⟨"price", .compare .lt, .number (.integer 5)⟩, ⟨"name", .pattern .front, .text "A"⟩,
      ⟨"shop.opened", .between, .array [.text "2020-01-01", .text "2021-12-31"]⟩]
    let whole : Json := .object [("name", .text "Axe"), ("price", .number (.integer 3)),
      ("shop", .object [("opened", .text "2020-02-29")])]
    let part : Json := .object [("name", .text "Axe"), ("price", .null)]
    ∃ p, s.compile "item" f = .ok p ∧ (∀ c ∈ p.criteria, s.resolve "item" c.field = .ok c.kind ∧ c.WellKinded) ∧
      (∀ c ∈ p.criteria, c.truth Pattern.matchText part = none ↔ c.field ≠ "name") ∧
      (Predicate.negation p).holds whole = !p.holds whole := by
  intro s f whole part
  have hn : ∀ d ∈ f.conditions, ∀ j ∈ d.values, j.isFiniteNumber = true := by decide +kernel
  obtain ⟨p, hp, hfields, htests⟩ : ∃ p, s.compile "item" f = .ok p ∧
      (∀ c ∈ p.criteria, ((part.follow (Text.segments c.field) = none ∨
        part.follow (Text.segments c.field) = some .null) ↔ c.field ≠ "name")) ∧
      ∀ b, ∀ c ∈ p.criteria, c.test ≠ .null b :=
    ⟨_, rfl, by decide +kernel, by decide +kernel⟩
  obtain ⟨hcriteria, hrows⟩ := wellKinded_of_compile hn hp
  have hpart : part.HasFiniteNumbers := by
    refine .object (List.forall_mem_cons.mpr ⟨.text "Axe", List.forall_mem_singleton.mpr .null⟩)
  have hwhole : whole.HasFiniteNumbers := by
    have hthree : (JsonNumber.integer 3).toDouble.isFinite = true := by decide +kernel
    have hshop : Json.AllNumbers (fun n => n.toDouble.isFinite = true) (.object [("opened", .text "2020-02-29")]) :=
      .object (List.forall_mem_singleton.mpr (.text "2020-02-29"))
    refine .object (List.forall_mem_cons.mpr ⟨.text "Axe", List.forall_mem_cons.mpr ⟨.number hthree, ?_⟩⟩)
    exact List.forall_mem_singleton.mpr hshop
  refine ⟨p, hp, hcriteria, fun c hc => ?_, (hrows whole hwhole).2 ?_⟩
  · have hne : ∀ b, c.test ≠ .null b := fun b => htests b c hc
    exact ((hrows part hpart).1 c hc hne).trans (hfields c hc)
  · have hprice : whole.follow (Text.segments "price") = some (.number (.integer 3)) := rfl
    have hname : whole.follow (Text.segments "name") = some (.text "Axe") := rfl
    have hopened : whole.follow (Text.segments "shop.opened") = some (.text "2020-02-29") := rfl
    refine List.forall_mem_cons.mpr ⟨⟨_, hprice, nofun⟩, List.forall_mem_cons.mpr ⟨⟨_, hname, nofun⟩, ?_⟩⟩
    exact List.forall_mem_singleton.mpr ⟨_, hopened, nofun⟩

end RowFilter
