import RowFilter.Proofs.Conversion.Outcome

/-! The exact outcome of the way back. The parts of a predicate, read from left to right, are its criteria and
    whatever else is no join. A filter is recovered if every part is a criterion that can be stated; otherwise the
    first part that is none decides, and a criterion is checked by its field, its kind, its literals and its
    pattern, in this order. -/

namespace RowFilter

open Success Conversion

/-! ### The first fault -/

section
variable {ε α β : Type}

/-- The computation fails exactly if there are faults, with the first of them. -/
def FailsWith (x : Except ε α) (faults : List ε) : Prop :=
  ∀ e, x = .error e ↔ faults.head? = some e

theorem failsWith_ok (a : α) : FailsWith (.ok a : Except ε α) [] := fun _ => ⟨nofun, nofun⟩

theorem failsWith_error (e : ε) (more : List ε) : FailsWith (.error e : Except ε α) (e :: more) := by
  intro e'
  simp only [Except.error.injEq, List.head?_cons, Option.some.injEq]

theorem FailsWith.exists_ok_iff {x : Except ε α} {faults : List ε} (h : FailsWith x faults) :
    (∃ a, x = .ok a) ↔ faults = [] := by
  rw [← List.head?_eq_none_iff]
  cases x with
  | ok a =>
    refine ⟨fun _ => Option.eq_none_iff_forall_ne_some.mpr fun e he => ?_, fun _ => ⟨a, rfl⟩⟩
    cases (h e).mpr he
  | error e =>
    rw [(h e).mp rfl]
    exact ⟨nofun, nofun⟩

/-- The faults of the second step stand behind those of the first, and count only if the first succeeds. -/
theorem FailsWith.bind {x : Except ε α} {f : α → Except ε β} {faults more : List ε} (hx : FailsWith x faults)
    (hf : ∀ a, x = .ok a → FailsWith (f a) more) : FailsWith (x >>= f) (faults ++ more) := by
  cases x with
  | ok a =>
    rw [hx.exists_ok_iff.mp ⟨a, rfl⟩]
    exact hf a rfl
  | error e =>
    obtain ⟨rest, rfl⟩ := List.head?_eq_some_iff.mp ((hx e).mp rfl)
    exact failsWith_error e (rest ++ more)

theorem FailsWith.bind_pure {x : Except ε α} {faults : List ε} (hx : FailsWith x faults) (f : α → β) :
    FailsWith (x >>= fun a => pure (f a)) faults := by
  have h : FailsWith (x >>= fun a => pure (f a)) (faults ++ []) := hx.bind fun a _ => failsWith_ok (f a)
  rwa [List.append_nil] at h

end

/-! ### Criteria -/

/-- The faults of a pattern on a field of a kind: that the field holds no texts, and that the pattern does not look
    for one text. -/
def Test.patternFaults (field : String) (k : Kind) : Test → List FilterError
  | like p =>
    (if k = .text then [] else [.operatorKind (.pattern .anywhere) field k]) ++
      (if (Pattern.classify p).isSome then [] else [.inexpressible (.pattern p field)])
  | _ => []

namespace Criterion

/-- The faults of a criterion on a field of a kind: that it tests another kind, its literals that the field cannot
    be compared with, in order, and those of its pattern. -/
def kindFaults (c : Criterion) (k : Kind) : List FilterError :=
  (if c.kind = k then [] else [.inexpressible (.kind c.field c.kind k)]) ++
    ((c.test.literals.filter fun v => !fits k v).map (fun v => .coercion c.field k v.toJson) ++
      c.test.patternFaults c.field k)

/-- The faults of a criterion, that its field has no kind first. -/
def faults (resolve : String → Except FilterError Kind) (c : Criterion) : List FilterError :=
  match resolve c.field with
  | .error e => [e]
  | .ok k => c.kindFaults k

/-- The field of the criterion has the kind that is tested, every literal is one of the kind or an integer among
    doubles, and a pattern looks for one text on a field of texts. -/
def IsRecoverable (resolve : String → Except ResolutionError Kind) (c : Criterion) : Prop :=
  resolve c.field = .ok c.kind ∧
    (∀ v ∈ c.test.literals, v.kind = c.kind ∨ c.kind = .float ∧ v.kind = .integer) ∧
    ∀ p, c.test = .like p → c.kind = .text ∧ ∃ a s, Pattern.classify p = some (a, s)

theorem failsWith_condition (c : Criterion) (k : Kind) : FailsWith (c.condition k) (c.kindFaults k) := by
  obtain ⟨field, kind, test⟩ := c
  by_cases hk : kind = k
  · subst hk
    simp only [kindFaults, if_true, List.nil_append, condition, bne_self_eq_false, Bool.false_eq_true, if_false]
    rw [← List.head?_filter]
    cases hliterals : test.literals.filter fun v => !fits kind v with
    | cons v vs => exact failsWith_error _ _
    | nil =>
      cases test with
      | like p =>
        by_cases ht : kind = .text
        · subst ht
          cases hp : Pattern.classify p with
          | none =>
            simp only [Test.patternFaults, hp]
            exact failsWith_error _ _
          | some as =>
            simp only [Test.patternFaults, hp]
            exact failsWith_ok _
        · have hne : (kind != .text) = true := bne_iff_ne.mpr ht
          simp only [Test.patternFaults, if_neg ht, hne]
          exact failsWith_error _ _
      | _ => exact failsWith_ok _
  · have hne : (kind != k) = true := bne_iff_ne.mpr hk
    simp only [kindFaults, if_neg hk, condition, hne, if_true]
    exact failsWith_error _ _

theorem failsWith_toCondition (r : String → Except FilterError Kind) (c : Criterion) :
    FailsWith (toCondition r c) (c.faults r) := by
  unfold toCondition faults
  cases r c.field with
  | error e => exact failsWith_error e []
  | ok k =>
    have hcondition := failsWith_condition c k
    rw [ok_bind]
    cases hc : c.condition k <;> rwa [hc] at hcondition

theorem patternFaults_eq_nil_iff {t : Test} {field : String} {k : Kind} : t.patternFaults field k = [] ↔
    ∀ p, t = .like p → k = .text ∧ ∃ a s, Pattern.classify p = some (a, s) := by
  cases t with
  | like p => simp [Test.patternFaults, Option.isSome_iff_exists]
  | _ => exact ⟨fun _ => nofun, fun _ => rfl⟩

theorem kindFaults_eq_nil_iff {c : Criterion} {k : Kind} : c.kindFaults k = [] ↔
    c.kind = k ∧ (∀ v ∈ c.test.literals, fits k v = true) ∧
      ∀ p, c.test = .like p → k = .text ∧ ∃ a s, Pattern.classify p = some (a, s) := by
  have hkind : (if c.kind = k then [] else [FilterError.inexpressible (.kind c.field c.kind k)]) = [] ↔ c.kind = k := by
    simp
  rw [kindFaults, List.append_eq_nil_iff, List.append_eq_nil_iff, hkind, List.map_eq_nil_iff, List.filter_eq_nil_iff,
    patternFaults_eq_nil_iff]
  simp only [Bool.not_eq_true', Bool.not_eq_false]

theorem faults_eq_nil_iff {s : Schema} {entity : String} {c : Criterion} :
    c.faults (s.kindOf entity) = [] ↔ c.IsRecoverable (s.resolve entity) := by
  have hfits : ∀ v, fits c.kind v = true ↔ v.kind = c.kind ∨ c.kind = .float ∧ v.kind = .integer := by
    intro v
    simp only [fits, Bool.or_eq_true, Bool.and_eq_true, beq_iff_eq]
  unfold faults IsRecoverable
  rw [← Schema.kindOf_eq_ok_iff]
  cases hkind : s.kindOf entity c.field with
  | error e =>
    refine iff_of_false (List.cons_ne_nil _ _) fun h => ?_
    cases h.1
  | ok k =>
    rw [kindFaults_eq_nil_iff, Except.ok.injEq, @eq_comm _ k c.kind]
    refine and_congr_right fun hk => ?_
    subst hk
    simp only [hfits]

end Criterion

/-! ### Predicates -/

namespace Predicate

/-- The parts of a predicate from left to right: its criteria, and whatever else is no join. What is negated is
    part of the negation. -/
def parts : Predicate → List Predicate
  | join _ left right => left.parts ++ right.parts
  | p => [p]

theorem parts_leaf (c : Criterion) : (leaf c).parts = [leaf c] := rfl

/-- The faults of a part: those of a criterion, and that nothing else can be stated. -/
def partFaults (resolve : String → Except FilterError Kind) : Predicate → List FilterError
  | leaf c => c.faults resolve
  | always => [.inexpressible .nestedAlways]
  | negation p => [.inexpressible (.negation p)]
  | raw sql => [.inexpressible (.raw sql)]
  | join _ _ _ => []

/-- The faults of a predicate from left to right. The predicate of every row has none. -/
def faults (resolve : String → Except FilterError Kind) (p : Predicate) : List FilterError :=
  if p = .always then [] else p.parts.flatMap (partFaults resolve)

/-- The parts have no faults exactly if they are criteria without faults. -/
theorem partFaults_eq_nil_iff {r : String → Except FilterError Kind} {p : Predicate} :
    p.parts.flatMap (partFaults r) = [] ↔ p.IsJoined ∧ ∀ c ∈ p.criteria, c.faults r = [] := by
  induction p with
  | leaf c =>
    rw [parts_leaf, List.flatMap_singleton, partFaults, criteria, List.forall_mem_singleton]
    exact ⟨fun h => ⟨.leaf c, h⟩, And.right⟩
  | join op left right ihl ihr =>
    rw [parts, List.flatMap_append, List.append_eq_nil_iff, ihl, ihr, criteria, List.forall_mem_append]
    constructor
    · rintro ⟨⟨hjl, hl⟩, hjr, hr⟩
      exact ⟨.join hjl hjr, hl, hr⟩
    · rintro ⟨hjoined, hl, hr⟩
      cases hjoined with
      | join hjl hjr => exact ⟨⟨hjl, hl⟩, hjr, hr⟩
  | always | negation | raw =>
    refine iff_of_false (List.cons_ne_nil _ _) fun h => ?_
    cases h.1

end Predicate

namespace Conversion

/-- The group along the left spine is made unless a part has a fault. -/
theorem failsWith_toGroup (r : String → Except FilterError Kind) (p : Predicate) :
    FailsWith (toGroup r p) (p.parts.flatMap (Predicate.partFaults r)) := by
  induction p with
  | leaf c =>
    rw [toGroup, Predicate.parts_leaf, List.flatMap_singleton]
    exact (Criterion.failsWith_toCondition r c).bind_pure _
  | join op left right ihl ihr =>
    rw [toGroup, Predicate.parts, List.flatMap_append]
    refine ihl.bind fun g hg => ?_
    -- What stands on the right is looked at where it is joined, a join only to be walked along itself.
    cases right with
    | leaf c =>
      rw [Predicate.parts_leaf, List.flatMap_singleton]
      exact (Criterion.failsWith_toCondition r c).bind_pure _
    | join op' left' right' => exact ihr.bind_pure _
    | always => exact failsWith_error _ []
    | negation p => exact failsWith_error _ []
    | raw sql => exact failsWith_error _ []
  | always => exact failsWith_error _ []
  | negation p ih => exact failsWith_error _ []
  | raw sql => exact failsWith_error _ []

theorem failsWith_toFilter (r : String → Except FilterError Kind) (p : Predicate) :
    FailsWith (toFilter r p) (p.faults r) := by
  unfold toFilter Predicate.faults
  split
  · exact failsWith_ok _
  · next hne =>
    rw [if_neg hne]
    exact (failsWith_toGroup r p).bind_pure _

end Conversion

/-! ### The outcome -/

/-- A filter is recovered exactly from the predicate of every row and from joins of criteria that can be stated; the
    error is the first fault of the first part that has one. -/
theorem Schema.recover_outcome (s : Schema) (entity : String) (p : Predicate) :
    ((∃ f, s.recover entity p = .ok f) ↔
      p = .always ∨ p.IsJoined ∧ ∀ c ∈ p.criteria, c.IsRecoverable (s.resolve entity)) ∧
    ∀ e, s.recover entity p = .error e ↔ (p.faults (s.kindOf entity)).head? = some e := by
  have hfails : FailsWith (s.recover entity p) (p.faults (s.kindOf entity)) := failsWith_toFilter _ p
  refine ⟨?_, hfails⟩
  rw [hfails.exists_ok_iff, Predicate.faults]
  by_cases halways : p = .always
  · rw [if_pos halways]
    exact ⟨fun _ => .inl halways, fun _ => rfl⟩
  · rw [if_neg halways, Predicate.partFaults_eq_nil_iff, or_iff_right halways]
    simp only [Criterion.faults_eq_nil_iff]

/-- An integer among doubles and a pattern; then a criterion of another kind whose pattern looks for two texts, a
    negation, which hides the unknown field in it, and raw SQL. -/
theorem Schema.recover_outcome_mixed :
    let s : Schema := ⟨[("item", [("name", .value .text), ("price", .value .float)])]⟩
    let fine : Predicate := .join .or (.leaf ⟨"price", .float, .compare .lt (.integer 7)⟩)
      (.leaf ⟨"name", .text, .like "a%"⟩)
    let hidden : Predicate := .leaf ⟨"none", .text, .null true⟩
    let faulty : Predicate := .join .and (.join .or (.leaf ⟨"price", .text, .like "a_b"⟩) (.negation hidden)) (.raw "x")
    (∃ f, s.recover "item" fine = .ok f) ∧
      faulty.faults (s.kindOf "item") = [.inexpressible (.kind "price" .text .float),
        .operatorKind (.pattern .anywhere) "price" .float, .inexpressible (.pattern "a_b" "price"),
        .inexpressible (.negation hidden), .inexpressible (.raw "x")] ∧
      s.recover "item" faulty = .error (.inexpressible (.kind "price" .text .float)) := by
  intro s fine hidden faulty
  have hfaults : faulty.faults (s.kindOf "item") = [.inexpressible (.kind "price" .text .float),
      .operatorKind (.pattern .anywhere) "price" .float, .inexpressible (.pattern "a_b" "price"),
      .inexpressible (.negation hidden), .inexpressible (.raw "x")] := by
    rfl
  have hfine : ∀ c ∈ fine.criteria, c.IsRecoverable (s.resolve "item") := by
    refine List.forall_mem_cons.mpr ⟨⟨rfl, ?_, nofun⟩, List.forall_mem_singleton.mpr ⟨rfl, nofun, fun p hp => ?_⟩⟩
    · exact List.forall_mem_singleton.mpr (.inr ⟨rfl, rfl⟩)
    · cases hp
      exact ⟨rfl, .front, "a", rfl⟩
  refine ⟨(recover_outcome s "item" fine).1.mpr (.inr ⟨.join (.leaf _) (.leaf _), hfine⟩), hfaults, ?_⟩
  exact ((recover_outcome s "item" faulty).2 _).mpr (congrArg List.head? hfaults)

end RowFilter
