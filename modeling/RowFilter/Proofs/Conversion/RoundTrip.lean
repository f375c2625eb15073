import RowFilter.Proofs.Conversion.Compiled
import RowFilter.Proofs.Conversion.Criterion

/-! Compiling a filter and recovering one from the predicate. What is compiled has an expression in
    filters again, and that one compiles to the very same predicate. -/

namespace RowFilter

open Success Conversion

variable {r : String → Except FilterError Kind}

/-- A JSON number has a finite double. -/
def Json.isFiniteNumber : Json → Bool
  | .number n => n.toDouble.isFinite
  | _ => true

/-- The literal is no double that is infinite or undefined. -/
def Literal.isFinite : Literal → Bool
  | float d => d.isFinite
  | _ => true

/-- A moment is in a year that is written without a sign. -/
def Literal.hasPlainYear : Literal → Bool
  | dateTime m => m.HasPlainYear
  | _ => true

/-! ### Criteria -/

theorem Literal.isFinite_of_coerced {k : Kind} {j : Json} {v : Literal} (h : k.coerce j = some v)
    (hj : j.isFiniteNumber = true) : v.isFinite = true := by
  cases v with
  | float d =>
    refine isFinite_of_coerce h fun n hn => ?_
    subst hn
    exact hj
  | _ => rfl

/-- The literals of a compiled criterion can be read, doubles being finite and moments in plain years. -/
theorem isReadable_of_criterion {d : Condition} {k : Kind} {c : Criterion} (h : d.criterion k = .ok c)
    (hn : ∀ j ∈ d.values, j.isFiniteNumber = true) (hy : ∀ v ∈ c.test.literals, v.hasPlainYear = true) :
    ∀ v ∈ c.test.literals, v.isReadable = true := by
  intro v hv
  obtain ⟨j, hj, hcoerce⟩ := Criterion.literals_of_criterion h v hv
  cases v with
  | float x => exact Literal.isFinite_of_coerced hcoerce (hn j hj)
  | dateTime m => exact hy _ hv
  | _ => rfl

/-- A compiled criterion has a condition, which is read as the criterion. -/
theorem reread_of_criterion {d : Condition} {k : Kind} {c : Criterion} (hk : r d.field = .ok k)
    (h : d.criterion k = .ok c) (hr : ∀ v ∈ c.test.literals, v.isReadable = true) :
    ∃ e, toCondition r c = .ok e ∧ ofCondition r e = .ok (.leaf c) := by
  obtain ⟨e, he⟩ := Criterion.exists_condition_of_criterion h
  have hproper : ∀ v ∈ c.test.literals, v.IsProper := fun v hv => by
    obtain ⟨j, -, hj⟩ := Criterion.literals_of_criterion h v hv
    exact (Literal.of_coerce hj).2
  have hread := Criterion.criterion_of_condition he hproper (Criterion.isExpressible_of_criterion h hr)
  rw [Criterion.asKind_of_criterion h] at hread
  obtain ⟨-, -, -, -, hfield⟩ := Criterion.condition_eq_ok_iff.mp he
  obtain ⟨-, -, -, t, -, -, rfl⟩ := Condition.criterion_eq_ok_iff.mp h
  refine ⟨e, ?_, ?_⟩
  · unfold toCondition
    rw [hk, ok_bind, he]
    rfl
  · unfold ofCondition
    rw [hfield, hk, ok_bind, hread]
    rfl

/-! ### Filters -/

/-- A compiled predicate whose literals can be read has a filter, which compiles to that predicate. -/
theorem exists_toFilter_ofFilter {f : Filter} {p : Predicate} (hc : ofFilter r f = .ok p)
    (hr : ∀ c ∈ p.criteria, ∀ v ∈ c.test.literals, v.isReadable = true) :
    ∃ g, toFilter r p = .ok g ∧ ofFilter r g = .ok p := by
  have hleaf : ∀ c ∈ p.criteria, ∃ e, toCondition r c = .ok e ∧ ofCondition r e = .ok (.leaf c) := by
    intro c hc'
    obtain ⟨d, -, k, hk, hcriterion⟩ := exists_condition_of_criteria hc hc'
    exact reread_of_criterion hk hcriterion (hr c hc')
  obtain ⟨g, hg⟩ := exists_toFilter (criteria_of_ofFilter hc).1 fun c hc' => (hleaf c hc').imp fun _ => And.left
  have hreread : p.reread r = .ok p := Predicate.reread_eq_self fun c hc' => by
    obtain ⟨e, he, hread⟩ := hleaf c hc'
    rw [he]
    exact hread
  exact ⟨g, hg, (ofFilter_of_toFilter hg).trans hreread⟩

/-- Compiling, recovering a filter and compiling again gives the same predicate, tree and literals
    alike, so that the recovered filter is the one that is recovered from then on. -/
theorem Schema.compile_recover_compile {s : Schema} {entity : String} {f : Filter} {p : Predicate}
    (hn : ∀ d ∈ f.conditions, ∀ j ∈ d.values, j.isFiniteNumber = true) (hc : s.compile entity f = .ok p)
    (hy : ∀ c ∈ p.criteria, ∀ v ∈ c.test.literals, v.hasPlainYear = true) :
    ∃ g, s.recover entity p = .ok g ∧ s.compile entity g = .ok p ∧
      (s.compile entity g >>= s.recover entity) = .ok g := by
  obtain ⟨g, hg, hcompile⟩ := exists_toFilter_ofFilter hc fun c hc' => by
    obtain ⟨d, hd, k, -, hcriterion⟩ := exists_condition_of_criteria hc hc'
    exact isReadable_of_criterion hcriterion (hn d hd) (hy c hc')
  have hrecover : s.recover entity p = .ok g := hg
  have hcompile : s.compile entity g = .ok p := hcompile
  refine ⟨g, hrecover, hcompile, ?_⟩
  rw [hcompile, ok_bind, hrecover]

/-- A group with a nested group, a connective at each joint and a right side. -/
theorem Schema.compile_recover_compile_nested :
    let s : Schema := ⟨[("user", [("active", .value .boolean), ("age", .value .integer), ("name", .value .text)])]⟩
    let f : Filter := .complex ⟨.and,
      [.condition ⟨"name", .pattern .front, .text "A%"⟩,
        .group (.uniform .or [.condition ⟨"age", .between, .array [.text "18", .number (.integer 30)]⟩,
          .condition ⟨"age", .null true, .null⟩])],
      some [.or, .and], some (.uniform .and [.condition ⟨"active", .compare .eq, .text "TRUE"⟩])⟩
    ∃ p g, s.compile "user" f = .ok p ∧ s.recover "user" p = .ok g ∧ s.compile "user" g = .ok p ∧
      (s.compile "user" g >>= s.recover "user") = .ok g := by
  intro s f
  have hn : ∀ d ∈ f.conditions, ∀ j ∈ d.values, j.isFiniteNumber = true := by decide +kernel
  obtain ⟨p, hp, hy⟩ : ∃ p, s.compile "user" f = .ok p ∧
      ∀ c ∈ p.criteria, ∀ v ∈ c.test.literals, v.hasPlainYear = true :=
    ⟨_, rfl, by decide⟩
  obtain ⟨g, hg⟩ := compile_recover_compile hn hp hy
  exact ⟨p, g, hp, hg⟩

end RowFilter
