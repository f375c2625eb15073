import RowFilter.Predicate.Evaluation
import RowFilter.Proofs.Conversion.Criterion
import RowFilter.Proofs.Conversion.Recovery

/-! The rows that a recovered filter admits. A filter is recovered from some predicates that no filter
    states, and then it does not compile; from all others it admits the rows that they do. -/

namespace RowFilter

open Success Conversion

/-! ### Truth of tests read again -/

namespace Test

theorem truth_compare_asKind {c : Comparison} {k : Kind} {v w : Literal} (hv : v.kind = k)
    (hw : Criterion.fits k w = true) : c.truth v (w.asKind k) = c.truth v w := by
  unfold Comparison.truth
  rw [Literal.compare_asKind hv hw]

theorem truth_like {p s : String} {a : Anchor} (h : Pattern.classify p = some (a, s)) (t : String) :
    Pattern.matchText (Pattern.anchored a s) t = Pattern.matchText p t := by
  refine Pattern.matchText_congr ?_ t
  rw [Pattern.tokens_anchored, Pattern.tokens_of_classify h]

theorem asKind_ne_null {k : Kind} {t : Test} (h : ∀ b, t ≠ .null b) (b : Bool) : t.asKind k ≠ .null b := by
  cases t with
  | null positive => exact absurd rfl (h positive)
  | like p =>
    cases hp : Pattern.classify p with
    | none =>
      rw [asKind_like_of_none hp]
      exact nofun
    | some as =>
      rw [asKind_like hp]
      exact nofun
  | _ => exact nofun

/-- A value of the kind meets a test exactly if it meets the test that is read again. -/
theorem truth_asKind {k : Kind} {t : Test} (hf : ∀ v ∈ t.literals, Criterion.fits k v = true) {v : Literal}
    (hv : v.kind = k) : (t.asKind k).truth Pattern.matchText v = t.truth Pattern.matchText v := by
  cases t with
  | compare c w => exact truth_compare_asKind hv (hf w (List.mem_singleton_self w))
  | like p =>
    cases hp : Pattern.classify p with
    | none => rw [asKind_like_of_none hp]
    | some as =>
      rw [asKind_like hp]
      simp only [truth, truth_like hp]
  | member positive ws =>
    have hsame : ∀ w ∈ ws, v.same (w.asKind k) = v.same w := fun w hw => by
      rw [Literal.same, Literal.compare_asKind hv (hf w hw), Literal.same]
    have hany : (ws.map (Literal.asKind k)).any v.same = ws.any v.same := by
      rw [Bool.eq_iff_iff, List.any_map, List.any_eq_true, List.any_eq_true]
      refine exists_congr fun w => and_congr_right fun hw => ?_
      rw [Function.comp_apply, hsame w hw]
    show (member positive (ws.map (Literal.asKind k))).truth Pattern.matchText v = _
    simp only [truth, hany]
  | between low high =>
    have hlow := Literal.compare_asKind hv (hf low (by simp [literals]))
    have hhigh := Literal.compare_asKind hv (hf high (by simp [literals]))
    show (between (low.asKind k) (high.asKind k)).truth Pattern.matchText v = _
    simp only [truth, hlow, hhigh]
  | null positive => rfl

end Test

namespace Criterion

/-- The criterion as it is read from the condition that states it. -/
def reread (c : Criterion) : Criterion :=
  ⟨c.field, c.kind, c.test.asKind c.kind⟩

/-- A test other than one for null looks at the value of the field. -/
theorem truth_of_ne_null {like : String → String → Bool} {c : Criterion} (h : ∀ b, c.test ≠ .null b) (row : Json) :
    c.truth like row = (row.cell? c.field).bind fun cell => match c.kind.coerce cell with
      | none => some false
      | some v => c.test.truth like v := by
  unfold truth
  split
  · next hnull => exact absurd hnull (h _)
  · next hcell _ => rw [hcell, Option.bind_none]
  · next hcell _ =>
    rw [hcell]
    rfl

section Values

variable {like : String → String → Bool} (c : Criterion) {row cell : Json}

theorem truth_of_missing (h : ∀ b, c.test ≠ .null b) (hcell : row.cell? c.field = none) :
    c.truth like row = none := by
  rw [truth_of_ne_null h, hcell, Option.bind_none]

theorem truth_of_misfit (h : ∀ b, c.test ≠ .null b) (hcell : row.cell? c.field = some cell)
    (hv : c.kind.coerce cell = none) : c.truth like row = some false := by
  rw [truth_of_ne_null h, hcell, Option.bind_some, hv]

theorem truth_of_value {v : Literal} (h : ∀ b, c.test ≠ .null b) (hcell : row.cell? c.field = some cell)
    (hv : c.kind.coerce cell = some v) : c.truth like row = c.test.truth like v := by
  rw [truth_of_ne_null h, hcell, Option.bind_some, hv]

end Values

theorem truth_reread {c : Criterion} (hf : ∀ v ∈ c.test.literals, fits c.kind v = true) (row : Json) :
    c.reread.truth Pattern.matchText row = c.truth Pattern.matchText row := by
  by_cases hnull : ∃ b, c.test = .null b
  · obtain ⟨b, hb⟩ := hnull
    rw [reread, hb]
    obtain ⟨field, kind, test⟩ := c
    subst hb
    rfl
  · have hne : ∀ b, c.test ≠ .null b := not_exists.mp hnull
    have hne' : ∀ b, c.reread.test ≠ .null b := Test.asKind_ne_null hne
    cases hcell : row.cell? c.field with
    | none => rw [truth_of_missing c hne hcell, truth_of_missing c.reread hne' hcell]
    | some cell =>
      cases hv : c.kind.coerce cell with
      | none => rw [truth_of_misfit c hne hcell hv, truth_of_misfit c.reread hne' hcell hv]
      | some v =>
        rw [truth_of_value c hne hcell hv, truth_of_value c.reread hne' hcell hv]
        exact Test.truth_asKind hf (Literal.of_coerce hv).1

end Criterion

/-! ### Truth of predicates read again -/

namespace Predicate

/-- Criteria with the same truth make predicates with the same truth. -/
theorem truth_mapCriteria {like : String → String → Bool} {row : Json} {f : Criterion → Criterion} {p : Predicate}
    (h : ∀ c ∈ p.criteria, (f c).truth like row = c.truth like row) :
    (p.mapCriteria f).truth like row = p.truth like row := by
  induction p with
  | leaf c => exact h c (List.mem_singleton_self c)
  | join op left right ihl ihr =>
    obtain ⟨hl, hr⟩ := List.forall_mem_append.mp h
    rw [mapCriteria, truth, ihl hl, ihr hr, truth]
  | negation p ih => rw [mapCriteria, truth, ih h, truth]
  | _ => rfl

end Predicate

/-! ### Recovered filters -/

/-- A criterion with a condition is read again from it exactly if a filter can state it. -/
theorem reread_eq_ok_iff {r : String → Except FilterError Kind} {c : Criterion} {d : Condition}
    (hd : toCondition r c = .ok d) (hp : ∀ v ∈ c.test.literals, v.IsProper) {q : Predicate} :
    (toCondition r c >>= ofCondition r) = .ok q ↔ c.isExpressible = true ∧ q = .leaf c.reread := by
  obtain ⟨k, hk, hcondition⟩ := toCondition_eq_ok_iff.mp hd
  obtain ⟨hkind, -, -, -, hfield⟩ := Criterion.condition_eq_ok_iff.mp hcondition
  rw [hd, ok_bind]
  unfold ofCondition
  rw [hfield, hk, ok_bind]
  constructor
  · intro h
    split at h
    · next e he =>
      have hexpressible := Criterion.isExpressible_of_condition hcondition he
      rw [Criterion.criterion_of_condition hcondition hp hexpressible] at he
      cases he
      cases h
      exact ⟨hexpressible, by rw [Criterion.reread, hkind]⟩
    · cases h
  · rintro ⟨hexpressible, rfl⟩
    rw [Criterion.criterion_of_condition hcondition hp hexpressible, Criterion.reread, hkind]
    rfl

/-- If the literals of a predicate name what exists, the recovered filter compiles to a predicate with the same rows
    exactly if a filter can state every criterion, and what it compiles to never admits other rows. -/
theorem Schema.recover_sound_iff {s : Schema} {entity : String} {p : Predicate} {f : Filter}
    (hp : ∀ c ∈ p.criteria, ∀ v ∈ c.test.literals, v.IsProper) (hf : s.recover entity p = .ok f) :
    ((∃ q, s.compile entity f = .ok q ∧ ∀ row, q.holds row = p.holds row) ↔
      ∀ c ∈ p.criteria, c.isExpressible = true) ∧
      ∀ q, s.compile entity f = .ok q → ∀ row, q.holds row = p.holds row := by
  have hcompile : s.compile entity f = p.reread (s.kindOf entity) := ofFilter_of_toFilter hf
  have hconditions := (joined_of_toFilter hf).2
  have hexpressible : ∀ q, s.compile entity f = .ok q → ∀ c ∈ p.criteria, c.isExpressible = true := by
    intro q hq c hc
    obtain ⟨d, hd⟩ := exists_of_mapM hconditions hc
    rw [hcompile] at hq
    obtain ⟨q', hq'⟩ := Predicate.leaf_of_reread hq hc
    exact ((reread_eq_ok_iff hd (hp c hc)).mp hq').1
  have hread : (∀ c ∈ p.criteria, c.isExpressible = true) →
      s.compile entity f = .ok (p.mapCriteria Criterion.reread) := by
    intro h
    rw [hcompile]
    refine Predicate.reread_eq_ok fun c hc => ?_
    obtain ⟨d, hd⟩ := exists_of_mapM hconditions hc
    exact (reread_eq_ok_iff hd (hp c hc)).mpr ⟨h c hc, rfl⟩
  have hholds : ∀ row, (p.mapCriteria Criterion.reread).holds row = p.holds row := by
    intro row
    rw [Predicate.holds, Predicate.holds, Predicate.truth_mapCriteria]
    intro c hc
    obtain ⟨d, hd⟩ := exists_of_mapM hconditions hc
    obtain ⟨k, -, hcondition⟩ := toCondition_eq_ok_iff.mp hd
    obtain ⟨rfl, hfits, -⟩ := Criterion.condition_eq_ok_iff.mp hcondition
    exact Criterion.truth_reread hfits row
  refine ⟨⟨?_, fun h => ⟨_, hread h, hholds⟩⟩, fun q hq row => ?_⟩
  · rintro ⟨q, hq, -⟩
    exact hexpressible q hq
  · rw [hread (hexpressible q hq)] at hq
    cases hq
    exact hholds row

/-- An integer among doubles, and a pattern with an escape that it could do without. -/
theorem Schema.recover_sound_mixed :
    let s : Schema := ⟨[("item", [("name", .value .text), ("price", .value .float)])]⟩
    let p : Predicate := .join .or (.leaf ⟨"price", .float, .compare .lte (.integer 7)⟩)
      (.leaf ⟨"name", .text, .like "\\a%"⟩)
    ∃ f q, s.recover "item" p = .ok f ∧ s.compile "item" f = .ok q ∧ ∀ row, q.holds row = p.holds row := by
  intro s p
  have hp : ∀ c ∈ p.criteria, ∀ v ∈ c.test.literals, v.IsProper := by
    have hseven : JsonNumber.isSigned 7 = true := by decide
    simp [p, Predicate.criteria, Test.literals, Literal.IsProper, hseven]
  obtain ⟨f, hf⟩ : ∃ f, s.recover "item" p = .ok f := ⟨_, rfl⟩
  obtain ⟨q, hq⟩ := (recover_sound_iff hp hf).1.mpr (by decide)
  exact ⟨f, q, hf, hq⟩

/-- Not every recovered filter compiles: a choice among no values is written as an empty list, which the
    operator does not take. -/
theorem Schema.recover_not_sound :
    ¬∀ (s : Schema) (entity : String) (p : Predicate) (f : Filter), s.recover entity p = .ok f →
      ∃ q, s.compile entity f = .ok q ∧ ∀ row, q.holds row = p.holds row := by
  intro h
  obtain ⟨q, hq, -⟩ := h ⟨[("user", [("age", .value .integer)])]⟩ "user"
    (.leaf ⟨"age", .integer, .member true []⟩) (.simple [⟨"age", .member true, .array []⟩]) rfl
  cases hq

end RowFilter
