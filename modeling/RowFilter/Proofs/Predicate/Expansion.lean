import RowFilter.Proofs.Conversion.WellKinded

/-! Tests that abbreviate others. Membership in a list and a range are joins of comparisons, and half of the tests
    are the negations of the other half. A well-kinded criterion and the join that it abbreviates have the same
    truth on every row, unknown included, so one may stand for the other anywhere in a predicate; a criterion and
    its opposite have opposite truths unless the value in the row is none of the kind. -/

namespace RowFilter

/-! ### Places in predicates -/

/-- A predicate with one place left open. -/
inductive Predicate.Context where
  | place
  | left (c : Connective) (l : Context) (r : Predicate)
  | right (c : Connective) (l : Predicate) (r : Context)
  | negation (p : Context)

/-- The predicate with another one at the open place. -/
def Predicate.Context.fill (p : Predicate) : Context → Predicate
  | place => p
  | left c l r => .join c (l.fill p) r
  | right c l r => .join c l (r.fill p)
  | negation k => .negation (k.fill p)

theorem Predicate.Context.truth_fill {like : String → String → Bool} {row : Json} {p q : Predicate}
    (h : p.truth like row = q.truth like row) (k : Context) :
    (k.fill p).truth like row = (k.fill q).truth like row := by
  induction k with
  | place => exact h
  | left c l r ih => rw [fill, fill, truth, truth, ih]
  | right c l r ih => rw [fill, fill, truth, truth, ih]
  | negation k ih => rw [fill, fill, truth, truth, ih]

/-! ### Joined truths -/

namespace Truth

/-- The truth that changes no other one it is joined to. -/
def neutral (c : Connective) : Truth :=
  some (c == .and)

/-- Truths joined by one connective. -/
def joined (c : Connective) (ts : List Truth) : Truth :=
  ts.foldr (combine c) (neutral c)

theorem joined_cons (c : Connective) (t : Truth) (ts : List Truth) :
    joined c (t :: ts) = combine c t (joined c ts) :=
  rfl

theorem combine_neutral (c : Connective) (t : Truth) : combine c t (neutral c) = t := by
  rcases c with _ | _ <;> rcases t with _ | _ | _ <;> rfl

theorem combine_self (c : Connective) (t : Truth) : combine c t t = t := by
  rcases c with _ | _ <;> rcases t with _ | _ | _ <;> rfl

theorem combine_assoc (c : Connective) (t u v : Truth) :
    combine c (combine c t u) v = combine c t (combine c u v) := by
  rcases c with _ | _ <;> rcases t with _ | _ | _ <;> rcases u with _ | _ | _ <;> rcases v with _ | _ | _ <;> rfl

theorem combine_comm (c : Connective) (t u : Truth) : combine c t u = combine c u t := by
  rcases c with _ | _ <;> rcases t with _ | _ | _ <;> rcases u with _ | _ | _ <;> rfl

/-- The order of joined truths does not matter. -/
theorem joined_perm (c : Connective) {ts us : List Truth} (h : ts.Perm us) : joined c ts = joined c us := by
  refine h.foldr_eq' (fun t _ u _ v => ?_) (neutral c)
  rw [← combine_assoc, combine_comm c u t, combine_assoc]

theorem joined_of_forall_eq {c : Connective} {ts : List Truth} {t : Truth} (hne : ts ≠ []) (h : ∀ u ∈ ts, u = t) :
    joined c ts = t := by
  induction ts with
  | nil => exact absurd rfl hne
  | cons u ts ih =>
    obtain ⟨rfl, hts⟩ := List.forall_mem_cons.mp h
    rw [joined_cons]
    cases ts with
    | nil => exact combine_neutral c u
    | cons v ts =>
      have hrest : joined c (v :: ts) = u := ih (List.cons_ne_nil v ts) hts
      rw [hrest, combine_self]

end Truth

namespace Predicate

variable {like : String → String → Bool} {row : Json}

theorem truth_chainFrom (c : Connective) (i : Nat) (p : Predicate) (ps : List Predicate) :
    (chainFrom (fun _ => c) i p ps).truth like row =
      Truth.combine c (p.truth like row) (Truth.joined c (ps.map (truth like row))) := by
  induction ps generalizing i p with
  | nil => exact (Truth.combine_neutral c _).symm
  | cons q ps ih => rw [chainFrom, ih, truth, Truth.combine_assoc, List.map_cons, Truth.joined_cons]

theorem truth_chain (c : Connective) {ps : List Predicate} (h : ps ≠ []) :
    (chain (fun _ => c) ps).truth like row = Truth.joined c (ps.map (truth like row)) := by
  cases ps with
  | nil => exact absurd rfl h
  | cons p ps => exact truth_chainFrom c 0 p ps

end Predicate

/-! ### Joins of comparisons -/

namespace Test

/-- The tests that a test abbreviates, and how they are joined. -/
def expansion? : Test → Option (Connective × List Test)
  | member true vs => some (.or, vs.map (compare .eq))
  | member false vs => some (.and, vs.map (compare .ne))
  | between low high => some (.and, [compare .gte low, compare .lte high])
  | compare .. | like _ | null _ => none

variable {like : String → String → Bool} {t : Test} {v : Literal} {c : Connective} {ts : List Test}

theorem expansion?_ne_nil (h : t.expansion? = some (c, ts)) (hlist : t.isEmptyList = false) : ts ≠ [] := by
  rcases t with _ | _ | ⟨_ | _, _ | ⟨w, ws⟩⟩ | _ | _ <;> cases h
  · cases hlist
  · exact nofun
  · cases hlist
  · exact nofun
  · exact nofun

theorem ne_null_of_expansion? (h : t.expansion? = some (c, ts)) : ∀ b, t ≠ .null b := by
  rintro b rfl
  cases h

theorem ne_null_of_mem_expansion? (h : t.expansion? = some (c, ts)) : ∀ u ∈ ts, ∀ b, u ≠ .null b := by
  rcases t with _ | _ | ⟨_ | _, _⟩ | _ | _ <;> cases h <;> simp

/-- A value is among several if it is equal to the first or to one of the others, and among none of them if it
    differs from the first and from all others. -/
theorem joined_member (positive : Bool) {ws : List Literal} (h : ∀ w ∈ ws, ∃ o, v.compare w = some o) :
    Truth.joined (if positive then .or else .and)
      (ws.map fun w => (if positive then Comparison.eq else .ne).truth v w) = some (ws.any v.same == positive) := by
  induction ws with
  | nil => cases positive <;> rfl
  | cons w ws ih =>
    obtain ⟨⟨o, ho⟩, hws⟩ := List.forall_mem_cons.mp h
    rw [List.map_cons, Truth.joined_cons, ih hws, List.any_cons, Comparison.truth, Literal.same, ho, Option.map_some]
    cases positive <;> cases o <;> cases ws.any v.same <;> rfl

/-- A test has the joined truth of the tests that it abbreviates on a value that its literals are comparable
    with. -/
theorem joined_truth (h : t.expansion? = some (c, ts)) (hv : ∀ w ∈ t.literals, ∃ o, v.compare w = some o) :
    Truth.joined c (ts.map fun u => u.truth like v) = t.truth like v := by
  rcases t with _ | _ | ⟨positive, ws⟩ | ⟨low, high⟩ | _
  · cases h
  · cases h
  · have hjoined := joined_member positive hv
    cases positive <;> cases h <;> rw [List.map_map] <;> exact hjoined
  · cases h
    obtain ⟨o, ho⟩ := hv low List.mem_cons_self
    obtain ⟨o', ho'⟩ := hv high (List.mem_cons_of_mem _ (List.mem_singleton_self high))
    simp only [List.map_cons, List.map_nil, truth, Comparison.truth, ho, ho', Option.map_some]
    cases o <;> cases o' <;> rfl
  · cases h

end Test

namespace Criterion

/-- The predicate that a criterion abbreviates: comparisons of the same field. -/
def expansion? (c : Criterion) : Option Predicate :=
  c.test.expansion?.map fun (connective, ts) =>
    Predicate.chain (fun _ => connective) (ts.map fun t => .leaf ⟨c.field, c.kind, t⟩)

variable {like : String → String → Bool} {c : Criterion} {row : Json}

/-- A well-kinded criterion has the truth of the predicate that it abbreviates. -/
theorem WellKinded.truth_expansion? (h : c.WellKinded) (hrow : row.HasFiniteNumbers) {p : Predicate}
    (hp : c.expansion? = some p) : p.truth like row = c.truth like row := by
  obtain ⟨⟨connective, ts⟩, hts, rfl⟩ := Option.map_eq_some_iff.mp hp
  have hne : ts ≠ [] := Test.expansion?_ne_nil hts h.list
  have hleaves : ts.map (fun t => Predicate.leaf ⟨c.field, c.kind, t⟩) ≠ [] := by simpa using hne
  have hnull : ∀ b, c.test ≠ .null b := Test.ne_null_of_expansion? hts
  have hnulls : ∀ t ∈ ts, ∀ b, t ≠ .null b := Test.ne_null_of_mem_expansion? hts
  rw [Predicate.truth_chain connective hleaves, List.map_map]
  -- Where there is no value to compare, all tests have one truth, and joining them does not change it.
  cases hcell : row.cell? c.field with
  | none =>
    rw [truth_of_missing c hnull hcell]
    refine Truth.joined_of_forall_eq (by simpa using hne) (List.forall_mem_map.mpr fun t ht => ?_)
    exact truth_of_missing ⟨c.field, c.kind, t⟩ (hnulls t ht) hcell
  | some cell =>
    cases hv : c.kind.coerce cell with
    | none =>
      rw [truth_of_misfit c hnull hcell hv]
      refine Truth.joined_of_forall_eq (by simpa using hne) (List.forall_mem_map.mpr fun t ht => ?_)
      exact truth_of_misfit ⟨c.field, c.kind, t⟩ (hnulls t ht) hcell hv
    | some v =>
      rw [truth_of_value c hnull hcell hv, ← Test.joined_truth hts (h.exists_compare hrow hcell hv)]
      exact congrArg (Truth.joined connective)
        (List.map_congr_left fun t ht => truth_of_value ⟨c.field, c.kind, t⟩ (hnulls t ht) hcell hv)

end Criterion

/-! ### Opposite tests -/

/-- The comparison that holds exactly where the other one does not. -/
def Comparison.opposite : Comparison → Comparison
  | eq => ne
  | ne => eq
  | gt => lte
  | lte => gt
  | lt => gte
  | gte => lt

theorem Comparison.holds_opposite (c : Comparison) (o : Ordering) : c.opposite.holds o = !c.holds o := by
  cases c <;> cases o <;> rfl

/-- The test that is the negation of another one. -/
def Test.opposite? : Test → Option Test
  | compare c v => some (compare c.opposite v)
  | member positive vs => some (member (!positive) vs)
  | null positive => some (null !positive)
  | like _ | between .. => none

theorem Test.truth_opposite? {like : String → String → Bool} {t u : Test} (h : t.opposite? = some u) (v : Literal) :
    t.truth like v = Truth.not (u.truth like v) := by
  cases t with
  | compare c w =>
    cases h
    rw [truth, truth, Comparison.truth, Comparison.truth]
    cases v.compare w with
    | none => rfl
    | some o => simp [Truth.not, Comparison.holds_opposite]
  | member positive ws =>
    cases h
    rw [truth, truth]
    cases positive <;> cases ws.any v.same <;> rfl
  | null positive =>
    cases h
    cases positive <;> rfl
  | _ => cases h

/-- A criterion and its opposite have opposite truths where the field is missing, null or of the kind. -/
theorem Criterion.truth_opposite? {like : String → String → Bool} {c : Criterion} {row : Json} {u : Test}
    (h : c.test.opposite? = some u)
    (hcell : ∀ cell, row.cell? c.field = some cell → ∃ v, c.kind.coerce cell = some v) :
    c.truth like row = Truth.not (Criterion.truth like ⟨c.field, c.kind, u⟩ row) := by
  obtain ⟨field, kind, test⟩ := c
  by_cases hnull : ∃ b, test = .null b
  · obtain ⟨b, rfl⟩ := hnull
    cases h
    show some ((row.cell? field).isNone == b) = some (!((row.cell? field).isNone == !b))
    cases (row.cell? field).isNone <;> cases b <;> rfl
  · have hne : ∀ b, test ≠ .null b := not_exists.mp hnull
    have hne' : ∀ b, u ≠ .null b := by
      rintro b rfl
      cases test <;> cases h
      exact hne _ rfl
    cases hfound : row.cell? field with
    | none =>
      rw [truth_of_missing ⟨field, kind, test⟩ hne hfound, truth_of_missing ⟨field, kind, u⟩ hne' hfound]
      rfl
    | some cell =>
      obtain ⟨v, hv⟩ := hcell cell hfound
      rw [truth_of_value ⟨field, kind, test⟩ hne hfound hv, truth_of_value ⟨field, kind, u⟩ hne' hfound hv]
      exact Test.truth_opposite? h v

/-- A criterion of a compiled filter may stand anywhere in place of the predicate that it abbreviates, and negates
    its opposite on every row whose field is missing, null or of the kind. -/
theorem Schema.holds_expansion {s : Schema} {entity : String} {f : Filter} {p : Predicate}
    (hn : ∀ d ∈ f.conditions, ∀ j ∈ d.values, j.isFiniteNumber = true) (hc : s.compile entity f = .ok p)
    {c : Criterion} (hmem : c ∈ p.criteria) {row : Json} (hrow : row.HasFiniteNumbers) :
    (∀ q, c.expansion? = some q →
        ∀ k : Predicate.Context, (k.fill q).holds row = (k.fill (.leaf c)).holds row) ∧
      ∀ t, c.test.opposite? = some t →
        (∀ cell, row.cell? c.field = some cell → ∃ v, c.kind.coerce cell = some v) →
        c.truth Pattern.matchText row =
          Truth.not (Criterion.truth Pattern.matchText ⟨c.field, c.kind, t⟩ row) := by
  obtain ⟨d, hd, _, -, hdc⟩ := Conversion.exists_condition_of_criteria hc hmem
  have hwell : c.WellKinded := Criterion.wellKinded_of_criterion hdc (hn d hd)
  refine ⟨fun q hq k => ?_, fun t ht hcell => Criterion.truth_opposite? ht hcell⟩
  have htruth : q.truth Pattern.matchText row = (Predicate.leaf c).truth Pattern.matchText row :=
    hwell.truth_expansion? hrow hq
  rw [Predicate.holds, Predicate.holds, k.truth_fill htruth]

/-- A choice that excludes two values, decided on a row that has one of them, under a negation and as the negation
    of its opposite. -/
theorem Schema.holds_expansion_excluded :
    let s : Schema := ⟨[("item", [("age", .value .integer)])]⟩
    let f : Filter := .simple [⟨"age", .member false, .array [.number (.integer 3), .text " 5"]⟩]
    let c : Criterion := ⟨"age", .integer, .member false [.integer 3, .integer 5]⟩
    let row : Json := .object [("age", .number (.integer 5))]
    let k : Predicate.Context := .left .or (.negation .place) (.raw "1 = 1")
    s.compile "item" f = .ok (.leaf c) ∧
      (k.fill (.join .and (.leaf ⟨"age", .integer, .compare .ne (.integer 3)⟩)
        (.leaf ⟨"age", .integer, .compare .ne (.integer 5)⟩))).holds row = (k.fill (.leaf c)).holds row ∧
      (k.fill (.leaf c)).holds row = true ∧
      c.truth Pattern.matchText row =
        Truth.not (Criterion.truth Pattern.matchText
          ⟨"age", .integer, .member true [.integer 3, .integer 5]⟩ row) ∧
      c.truth Pattern.matchText row = some false := by
  intro s f c row k
  have hn : ∀ d ∈ f.conditions, ∀ j ∈ d.values, j.isFiniteNumber = true := by decide +kernel
  have hc : s.compile "item" f = .ok (.leaf c) := rfl
  have hfive : (JsonNumber.integer 5).toDouble.isFinite = true := by decide +kernel
  have hrow : row.HasFiniteNumbers := .object (List.forall_mem_singleton.mpr (.number hfive))
  obtain ⟨hplaces, hopposite⟩ := holds_expansion hn hc (List.mem_singleton_self c) hrow
  have hfound : row.cell? "age" = some (.number (.integer 5)) := rfl
  refine ⟨hc, hplaces _ rfl k, by decide, hopposite _ rfl fun cell hcell => ?_, by decide⟩
  obtain rfl := Option.some.inj (hfound.symm.trans hcell)
  exact ⟨.integer 5, rfl⟩

end RowFilter
