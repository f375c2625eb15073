import RowFilter.Proofs.Conversion.Meaning

/-! Rows that hold more. When fields that are missing or null are filled in, a predicate without tests for null
    keeps every definite truth: what is unknown may become true or false, and nothing else changes. -/

namespace RowFilter

/-! ### Truths that say more -/

namespace Truth

/-- What the one truth says for certain, the other one says too. -/
def Keeps (t u : Truth) : Prop :=
  ∀ b, t = some b → u = some b

variable {t t' u u' : Truth}

theorem Keeps.refl (t : Truth) : t.Keeps t :=
  fun _ h => h

theorem keeps_none (u : Truth) : Keeps none u :=
  nofun

theorem Keeps.not (h : t.Keeps u) : t.not.Keeps u.not := by
  intro b hb
  obtain ⟨a, ha, rfl⟩ := Option.map_eq_some_iff.mp hb
  rw [h a ha]
  rfl

/-- Where one side is unknown, the other one decides only if it would decide alone. -/
theorem Keeps.combine (c : Connective) (h : t.Keeps u) (h' : t'.Keeps u') :
    (combine c t t').Keeps (combine c u u') := by
  rcases t with _ | a
  · rcases t' with _ | a'
    · cases c <;> exact keeps_none _
    · obtain rfl : u' = some a' := h' a' rfl
      intro b hb
      cases c <;> cases a' <;> cases hb <;> rcases u with _ | _ | _ <;> rfl
  · obtain rfl : u = some a := h a rfl
    rcases t' with _ | a'
    · intro b hb
      cases c <;> cases a <;> cases hb <;> rcases u' with _ | _ | _ <;> rfl
    · obtain rfl : u' = some a' := h' a' rfl
      exact .refl _

end Truth

/-! ### Rows that hold more -/

theorem Json.cell?_eq_some_iff {row j : Json} {field : String} :
    row.cell? field = some j ↔ row.follow (Text.segments field) = some j ∧ j ≠ .null := by
  rw [cell?, Option.filter_eq_some_iff, decide_eq_true_iff]

variable {like : String → String → Bool} {row row' : Json}

/-- A test other than one for null sees nothing of a row but the value of its field. -/
theorem Criterion.keeps_truth {c : Criterion} (hnull : ∀ b, c.test ≠ .null b)
    (hcell : ∀ cell, row.cell? c.field = some cell → row'.cell? c.field = some cell) :
    (c.truth like row).Keeps (c.truth like row') := by
  rw [truth_of_ne_null hnull, truth_of_ne_null hnull]
  cases hfound : row.cell? c.field with
  | none => exact Truth.keeps_none _
  | some cell =>
    rw [hcell cell hfound]
    exact .refl _

theorem Predicate.keeps_truth {p : Predicate} (hnull : ∀ c ∈ p.criteria, ∀ b, c.test ≠ .null b)
    (hcell : ∀ c ∈ p.criteria, ∀ cell, row.cell? c.field = some cell → row'.cell? c.field = some cell) :
    (p.truth like row).Keeps (p.truth like row') := by
  induction p with
  | always => exact .refl _
  | raw sql => exact .refl _
  | leaf c =>
    have hc : c ∈ (leaf c).criteria := List.mem_singleton_self c
    exact Criterion.keeps_truth (hnull c hc) (hcell c hc)
  | join connective l r ihl ihr =>
    obtain ⟨hnull, hnull'⟩ := List.forall_mem_append.mp hnull
    obtain ⟨hcell, hcell'⟩ := List.forall_mem_append.mp hcell
    exact (ihl hnull hcell).combine connective (ihr hnull' hcell')
  | negation p ih => exact (ih hnull hcell).not

theorem Truth.Keeps.holds {p : Predicate}
    (h : (p.truth Pattern.matchText row).Keeps (p.truth Pattern.matchText row')) (hp : p.holds row = true) :
    p.holds row' = true := by
  unfold Predicate.holds at hp ⊢
  exact beq_iff_eq.mpr (h true (beq_iff_eq.mp hp))

/-- A predicate without tests for null that is true or false of a row is so of every row with the same values in
    the fields that it reads there; the row still meets the predicate, or its negation, if it did. -/
theorem Predicate.truth_filledIn {p : Predicate} (hnull : ∀ c ∈ p.criteria, ∀ b, c.test ≠ .null b)
    (hfields : ∀ c ∈ p.criteria, ∀ j, row.follow (Text.segments c.field) = some j → j ≠ .null →
      row'.follow (Text.segments c.field) = some j) :
    (∀ b, p.truth Pattern.matchText row = some b → p.truth Pattern.matchText row' = some b) ∧
      (p.holds row = true → p.holds row' = true) ∧
      ((negation p).holds row = true → (negation p).holds row' = true) := by
  have hcell : ∀ c ∈ p.criteria, ∀ cell, row.cell? c.field = some cell → row'.cell? c.field = some cell := by
    intro c hc cell hcell
    obtain ⟨hfollow, hne⟩ := Json.cell?_eq_some_iff.mp hcell
    exact Json.cell?_eq_some_iff.mpr ⟨hfields c hc cell hfollow hne, hne⟩
  have hkeeps : (p.truth Pattern.matchText row).Keeps (p.truth Pattern.matchText row') := keeps_truth hnull hcell
  have hnegation : ((negation p).truth Pattern.matchText row).Keeps ((negation p).truth Pattern.matchText row') :=
    hkeeps.not
  exact ⟨hkeeps, hkeeps.holds, hnegation.holds⟩

/-- A price that is too low decides a range beside a name that is filled in later and a condition in SQL. -/
theorem Predicate.truth_filledIn_negated :
    let p : Predicate := .negation (.join .and
      (.leaf ⟨"shop.price", .integer, .between (.integer 5) (.integer 9)⟩)
      (.join .or (.raw "1 = 1") (.leaf ⟨"name", .text, .like "A%"⟩)))
    let row : Json := .object [("name", .null), ("shop", .object [("price", .number (.integer 3))])]
    let row' : Json := .object [("name", .text "Axe"), ("shop", .object [("price", .number (.integer 3))])]
    p.truth Pattern.matchText row = some true ∧ p.truth Pattern.matchText row' = some true := by
  intro p row row'
  have hnull : ∀ c ∈ p.criteria, ∀ b, c.test ≠ .null b := by decide
  have hfields : ∀ c ∈ p.criteria, ∀ j, row.follow (Text.segments c.field) = some j → j ≠ .null →
      row'.follow (Text.segments c.field) = some j := by
    refine List.forall_mem_cons.mpr ⟨fun j hj _ => ?_, List.forall_mem_singleton.mpr fun j hj hne => ?_⟩
    · exact hj
    · cases hj
      exact absurd rfl hne
  have htrue : p.truth Pattern.matchText row = some true := rfl
  exact ⟨htrue, (truth_filledIn hnull hfields).1 true htrue⟩

end RowFilter
