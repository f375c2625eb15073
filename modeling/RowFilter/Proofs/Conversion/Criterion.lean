import RowFilter.Proofs.Literal.JsonForm
import RowFilter.Proofs.Pattern.Classification
import RowFilter.Proofs.Success

/-! The condition of a criterion and the criterion of that condition. A condition can be made of more
    criteria than a filter can state: it gives a criterion again exactly if that is expressible, and
    then the same one, but for integers among doubles and superfluous escapes in patterns. -/

namespace RowFilter

open Success

/-! ### What the two directions check -/

theorem Operator.appliesTo_iff {o : Operator} {k : Kind} : o.appliesTo k = true ↔
    (o.isPattern = true → k = .text) ∧ (o.isRange = true → k.isOrdered = true) := by
  simp only [appliesTo, Bool.and_eq_true, Bool.not_eq_true', Bool.and_eq_false_iff, bne_eq_false_iff_eq,
    Bool.not_eq_false']
  cases o.isPattern <;> cases o.isRange <;> simp

namespace Condition

/-- Literals are read one for each value. -/
theorem literals_eq_ok_iff {field : String} {k : Kind} {js : List Json} {vs : List Literal} :
    literals field k js = .ok vs ↔ js.map k.coerce = vs.map some := by
  induction js generalizing vs with
  | nil => cases vs <;> simp [literals]
  | cons j js ih =>
    rw [literals]
    cases hj : k.coerce j with
    | none => cases vs <;> simp [hj]
    | some v =>
      simp only [map_eq_ok_iff]
      cases vs with
      | nil => simp
      | cons w ws =>
        simp only [List.map_cons, hj, List.cons.injEq, Option.some.injEq, ← ih]
        constructor
        · rintro ⟨_, h, rfl, rfl⟩
          exact ⟨rfl, h⟩
        · rintro ⟨rfl, h⟩
          exact ⟨ws, h, rfl, rfl⟩

/-- A condition has a criterion if its operator takes as many values as there are and means something
    for the kind, and if every value is one of the kind. -/
theorem criterion_eq_ok_iff {c : Condition} {k : Kind} {d : Criterion} :
    c.criterion k = .ok d ↔ c.operator.arity.accepts c.values.length = true ∧ c.operator.appliesTo k = true ∧
      ∃ vs t, c.values.map k.coerce = vs.map some ∧ c.operator.test? vs = some t ∧ d = ⟨c.field, k, t⟩ := by
  cases haccepts : c.operator.arity.accepts c.values.length with
  | false => simp [criterion, haccepts]
  | true =>
    cases happlies : c.operator.appliesTo k with
    | false => simp [criterion, haccepts, happlies]
    | true =>
      simp only [criterion, haccepts, happlies, if_true, bind_eq_ok_iff, literals_eq_ok_iff, true_and]
      refine exists_congr fun vs => ?_
      cases c.operator.test? vs with
      | none => simp
      | some t =>
        simp only [pure_eq_ok_iff, Option.some.injEq]
        constructor
        · rintro ⟨h, rfl⟩
          exact ⟨t, h, rfl, rfl⟩
        · rintro ⟨_, h, rfl, rfl⟩
          exact ⟨h, rfl⟩

/-- What the criterion of a condition is made of. -/
theorem exists_of_criterion {c : Condition} {k : Kind} {d : Criterion} (h : c.criterion k = .ok d) :
    c.operator.arity.accepts c.values.length = true ∧ c.operator.appliesTo k = true ∧
      ∃ vs t, c.values.map k.coerce = vs.map some ∧ c.operator.test? vs = some t ∧ d = ⟨c.field, k, t⟩ :=
  criterion_eq_ok_iff.mp h

end Condition

namespace Test

/-- The test looks at the order of values. -/
def isRange : Test → Bool
  | compare c _ => c.isRange
  | between _ _ => true
  | _ => false

/-- The test offers no value to choose from. -/
def isEmptyList : Test → Bool
  | member _ vs => vs.isEmpty
  | _ => false

/-- The operator and the value that state the test in a filter, unless its pattern looks for something
    else than one text. -/
def stated? : Test → Option (Operator × Json)
  | compare c v => some (.compare c, v.toJson)
  | like p => (Pattern.classify p).map fun (a, s) => (.pattern a, .text s)
  | member positive vs => some (.member positive, .array (vs.map Literal.toJson))
  | between low high => some (.between, .array [low.toJson, high.toJson])
  | null positive => some (.null positive, .null)

/-- The test that is read where this one is stated: literals as they are compared among values of the
    kind, and a pattern without superfluous escapes. -/
def asKind (k : Kind) : Test → Test
  | compare c v => compare c (v.asKind k)
  | like p => match Pattern.classify p with
    | some (a, s) => like (Pattern.anchored a s)
    | none => like p
  | member positive vs => member positive (vs.map (Literal.asKind k))
  | between low high => between (low.asKind k) (high.asKind k)
  | null positive => null positive

theorem asKind_like {k : Kind} {p s : String} {a : Anchor} (h : Pattern.classify p = some (a, s)) :
    (like p).asKind k = like (Pattern.anchored a s) := by
  show (match Pattern.classify p with
    | some (a, s) => like (Pattern.anchored a s)
    | none => like p) = _
  rw [h]

theorem asKind_like_of_none {k : Kind} {p : String} (h : Pattern.classify p = none) : (like p).asKind k = like p := by
  show (match Pattern.classify p with
    | some (a, s) => like (Pattern.anchored a s)
    | none => like p) = _
  rw [h]

end Test

namespace Criterion

/-- A filter can state the criterion: its test means something for the kind, offers a value to choose
    from if it chooses, and has literals that can be read. -/
def isExpressible (c : Criterion) : Bool :=
  (!c.test.isRange || c.kind.isOrdered) && !c.test.isEmptyList && c.test.literals.all Literal.isReadable

theorem valueOf_member (positive : Bool) (js : List Json) : valueOf (.member positive) js = .array js := by
  cases js with
  | nil => rfl
  | cons j js => cases js <;> rfl

/-- A criterion has a condition on a field of its own kind, if its literals can be compared on the field
    and its test can be stated, a pattern on a field of texts only. -/
theorem condition_eq_ok_iff {c : Criterion} {k : Kind} {d : Condition} :
    c.condition k = .ok d ↔ c.kind = k ∧ (∀ v ∈ c.test.literals, fits k v = true) ∧
      (∀ p, c.test = .like p → k = .text) ∧ c.test.stated? = some (d.operator, d.value) ∧ d.field = c.field := by
  obtain ⟨field, kind, test⟩ := c
  obtain ⟨field', operator, value⟩ := d
  by_cases hk : kind = k
  · subst hk
    cases hfind : test.literals.find? fun v => !fits kind v with
    | some v =>
      have hmem := List.mem_of_find?_eq_some hfind
      have hfits : fits kind v = false := by simpa using List.find?_some hfind
      have hnot : ¬∀ v ∈ test.literals, fits kind v = true := fun h => by
        rw [h v hmem] at hfits
        cases hfits
      simp [condition, hfind, hnot]
    | none =>
      have hfits : ∀ v ∈ test.literals, fits kind v = true := by
        simpa using List.find?_eq_none.mp hfind
      have hmade : ∀ o j, (∀ p, test = .like p → kind = .text) →
          ((pure ⟨field, o, j⟩ : Except FilterError Condition) = .ok ⟨field', operator, value⟩ ↔
            (∀ v ∈ test.literals, fits kind v = true) ∧ (∀ p, test = .like p → kind = .text) ∧
              some (o, j) = some (operator, value) ∧ field' = field) := by
        intro o j htext
        simp only [pure_eq_ok_iff, Condition.mk.injEq, Option.some.injEq, Prod.mk.injEq]
        constructor
        · rintro ⟨rfl, rfl, rfl⟩
          exact ⟨hfits, htext, ⟨rfl, rfl⟩, rfl⟩
        · rintro ⟨-, -, ⟨rfl, rfl⟩, rfl⟩
          exact ⟨rfl, rfl, rfl⟩
      simp only [condition, bne_self_eq_false, Bool.false_eq_true, if_false, hfind, true_and]
      cases test with
      | compare op v => exact hmade _ _ fun p h => by cases h
      | like p =>
        by_cases ht : kind = .text
        · subst ht
          cases hp : Pattern.classify p with
          | none => simp [Test.stated?, hp]
          | some as =>
            have htext := hmade (.pattern as.1) (.text as.2) fun _ _ => rfl
            simpa [Test.stated?, hp] using htext
        · have hne : (kind != .text) = true := bne_iff_ne.mpr ht
          simp [hne, ht]
      | member positive vs =>
        dsimp only
        rw [valueOf_member]
        exact hmade _ _ fun p h => by cases h
      | between low high => exact hmade _ _ fun p h => by cases h
      | null positive => exact hmade _ _ fun p h => by cases h
  · simp [condition, hk]

theorem isExpressible_iff {c : Criterion} : c.isExpressible = true ↔
    (c.test.isRange = true → c.kind.isOrdered = true) ∧ c.test.isEmptyList = false ∧
      ∀ v ∈ c.test.literals, v.isReadable = true := by
  simp only [isExpressible, Bool.and_eq_true, Bool.or_eq_true, Bool.not_eq_true', List.all_eq_true, and_assoc]
  cases c.test.isRange <;> simp

/-! ### Criteria of conditions -/

theorem literals_of_test? {o : Operator} {vs : List Literal} {t : Test} (h : o.test? vs = some t) :
    ∀ v ∈ t.literals, v ∈ vs := by
  unfold Operator.test? at h
  split at h <;> cases h
  · exact fun v hv => hv
  · exact nofun
  · exact fun v hv => hv
  · exact fun v hv => hv
  · exact nofun

theorem isRange_of_test? {o : Operator} {vs : List Literal} {t : Test} (h : o.test? vs = some t) :
    t.isRange = o.isRange := by
  unfold Operator.test? at h
  split at h <;> cases h <;> rfl

theorem isEmptyList_of_test? {o : Operator} {vs : List Literal} {t : Test} (h : o.test? vs = some t)
    (ha : o.arity.accepts vs.length = true) : t.isEmptyList = false := by
  unfold Operator.test? at h
  split at h <;> cases h
  · rfl
  · rfl
  · cases vs with
    | nil => cases ha
    | cons v vs => rfl
  · rfl
  · rfl

/-- Only operators that look for a text make patterns, which are anchored texts. -/
theorem pattern_of_test? {o : Operator} {vs : List Literal} {p : String} (h : o.test? vs = some (.like p)) :
    o.isPattern = true ∧ ∃ a s, p = Pattern.anchored a s := by
  unfold Operator.test? at h
  split at h <;> cases h
  exact ⟨rfl, _, _, rfl⟩

/-- The literals of a criterion are values of its condition, coerced. -/
theorem literals_of_criterion {d : Condition} {k : Kind} {c : Criterion} (h : d.criterion k = .ok c) :
    ∀ v ∈ c.test.literals, ∃ j ∈ d.values, k.coerce j = some v := by
  obtain ⟨-, -, vs, t, hcoerce, htest, rfl⟩ := Condition.exists_of_criterion h
  intro v hv
  have hmem : some v ∈ vs.map some := List.mem_map_of_mem (literals_of_test? htest v hv)
  rw [← hcoerce] at hmem
  exact List.mem_map.mp hmem

theorem fits_of_criterion {d : Condition} {k : Kind} {c : Criterion} (h : d.criterion k = .ok c) :
    ∀ v ∈ c.test.literals, fits k v = true := by
  intro v hv
  obtain ⟨j, -, hj⟩ := literals_of_criterion h v hv
  exact Literal.fits_of_kind (Literal.of_coerce hj).1

theorem of_criterion {d : Condition} {k : Kind} {c : Criterion} (h : d.criterion k = .ok c) :
    c.kind = k ∧ c.field = d.field := by
  obtain ⟨-, -, vs, t, -, -, rfl⟩ := Condition.exists_of_criterion h
  exact ⟨rfl, rfl⟩

theorem isOrdered_of_criterion {d : Condition} {k : Kind} {c : Criterion} (h : d.criterion k = .ok c)
    (hrange : c.test.isRange = true) : k.isOrdered = true := by
  obtain ⟨-, happlies, vs, t, -, htest, rfl⟩ := Condition.exists_of_criterion h
  rw [isRange_of_test? htest] at hrange
  exact (Operator.appliesTo_iff.mp happlies).2 hrange

theorem eq_text_of_criterion {d : Condition} {k : Kind} {c : Criterion} (h : d.criterion k = .ok c) {p : String}
    (hp : c.test = .like p) : k = .text := by
  obtain ⟨-, happlies, vs, t, -, htest, rfl⟩ := Condition.exists_of_criterion h
  obtain rfl : t = .like p := hp
  exact (Operator.appliesTo_iff.mp happlies).1 (pattern_of_test? htest).1

theorem isEmptyList_of_criterion {d : Condition} {k : Kind} {c : Criterion} (h : d.criterion k = .ok c) :
    c.test.isEmptyList = false := by
  obtain ⟨haccepts, -, vs, t, hcoerce, htest, rfl⟩ := Condition.exists_of_criterion h
  have hlength : d.values.length = vs.length := by simpa using congrArg List.length hcoerce
  exact isEmptyList_of_test? htest (hlength ▸ haccepts)

/-- The criterion of a condition is one that a filter can state if its literals can be read. -/
theorem isExpressible_of_criterion {d : Condition} {k : Kind} {c : Criterion} (h : d.criterion k = .ok c)
    (hr : ∀ v ∈ c.test.literals, v.isReadable = true) : c.isExpressible = true := by
  obtain ⟨rfl, -⟩ := of_criterion h
  exact isExpressible_iff.mpr ⟨isOrdered_of_criterion h, isEmptyList_of_criterion h, hr⟩

/-- The pattern of a condition has no superfluous escapes, and its literals are of the kind. -/
theorem asKind_of_criterion {d : Condition} {k : Kind} {c : Criterion} (h : d.criterion k = .ok c) :
    c.test.asKind k = c.test := by
  have hkind : ∀ v ∈ c.test.literals, v.asKind k = v := fun v hv => by
    obtain ⟨j, -, hj⟩ := literals_of_criterion h v hv
    exact Literal.asKind_eq_self (Literal.of_coerce hj).1
  obtain ⟨-, -, vs, t, -, htest, rfl⟩ := Condition.exists_of_criterion h
  cases t with
  | compare op v => exact congrArg (Test.compare op) (hkind v (List.mem_singleton_self v))
  | like p =>
    obtain ⟨-, a, s, rfl⟩ := pattern_of_test? htest
    obtain ⟨b, hclassify, hsame⟩ := Pattern.classify_anchored a s
    rw [Test.asKind_like hclassify, hsame]
  | member positive ws =>
    have hsame : ws.map (Literal.asKind k) = ws :=
      (List.map_congr_left hkind).trans (List.map_id ws)
    exact congrArg (Test.member positive) hsame
  | between low high =>
    have hlow := hkind low (by simp [Test.literals])
    have hhigh := hkind high (by simp [Test.literals])
    show Test.between (low.asKind k) (high.asKind k) = _
    rw [hlow, hhigh]
  | null positive => rfl

/-- The criterion of a condition has a condition. -/
theorem exists_condition_of_criterion {d : Condition} {k : Kind} {c : Criterion} (h : d.criterion k = .ok c) :
    ∃ d', c.condition k = .ok d' := by
  have hfits := fits_of_criterion h
  have htext : ∀ p, c.test = .like p → k = .text := fun p => eq_text_of_criterion h
  obtain ⟨-, -, vs, t, -, htest, rfl⟩ := Condition.exists_of_criterion h
  obtain ⟨o, j, hstated⟩ : ∃ o j, t.stated? = some (o, j) := by
    cases t with
    | like p =>
      obtain ⟨-, a, s, rfl⟩ := pattern_of_test? htest
      obtain ⟨b, hclassify, -⟩ := Pattern.classify_anchored a s
      exact ⟨.pattern b, .text s, by rw [Test.stated?, hclassify]; rfl⟩
    | _ => exact ⟨_, _, rfl⟩
  exact ⟨⟨d.field, o, j⟩, condition_eq_ok_iff.mpr ⟨rfl, hfits, htext, hstated, rfl⟩⟩

/-! ### The criterion of the condition -/

theorem values_of_scalar {field : String} {o : Operator} {j : Json} (hn : j ≠ .null)
    (ha : ∀ items, j ≠ .array items) : (⟨field, o, j⟩ : Condition).values = [j] := by
  unfold Condition.values
  split
  · next h => exact absurd h hn
  · next items h => exact absurd h (ha items)
  · rfl

theorem map_coerce_toJson {k : Kind} {vs : List Literal} (hp : ∀ v ∈ vs, v.IsProper)
    (hf : ∀ v ∈ vs, fits k v = true) (hr : ∀ v ∈ vs, v.isReadable = true) :
    (vs.map Literal.toJson).map k.coerce = (vs.map (Literal.asKind k)).map some := by
  simp only [List.map_map, List.map_inj_left, Function.comp_apply]
  exact fun v hv => Literal.coerce_toJson (hp v hv) (hf v hv) (hr v hv)

theorem isReadable_of_map_coerce {k : Kind} {vs ws : List Literal} (hf : ∀ v ∈ vs, fits k v = true)
    (h : (vs.map Literal.toJson).map k.coerce = ws.map some) : ∀ v ∈ vs, v.isReadable = true := by
  intro v hv
  cases hr : v.isReadable with
  | true => rfl
  | false =>
    have hnone : none ∈ ws.map some := by
      rw [← h, ← Literal.coerce_toJson_eq_none (hf v hv) hr]
      exact List.mem_map_of_mem (List.mem_map_of_mem hv)
    obtain ⟨w, -, hw⟩ := List.mem_map.mp hnone
    cases hw

/-- The condition of a criterion that a filter can state gives the criterion back, its test as it is
    read. -/
theorem criterion_of_condition {c : Criterion} {k : Kind} {d : Condition} (h : c.condition k = .ok d)
    (hp : ∀ v ∈ c.test.literals, v.IsProper) (he : c.isExpressible = true) :
    d.criterion k = .ok ⟨c.field, k, c.test.asKind k⟩ := by
  obtain ⟨field, kind, test⟩ := c
  obtain ⟨field', operator, value⟩ := d
  obtain ⟨rfl, hfits, htext, hstated, rfl⟩ := condition_eq_ok_iff.mp h
  obtain ⟨hrange, hlist, hread⟩ := isExpressible_iff.mp he
  cases test with
  | compare op v =>
    obtain ⟨rfl, rfl⟩ := Prod.mk.inj (Option.some.inj hstated)
    have hv : v ∈ (Test.compare op v).literals := List.mem_singleton_self v
    have hvalues : (⟨field', .compare op, v.toJson⟩ : Condition).values = [v.toJson] :=
      values_of_scalar (Literal.toJson_ne_null (hread v hv)) (Literal.toJson_ne_array v)
    refine Condition.criterion_eq_ok_iff.mpr ⟨?_, ?_, [v.asKind kind], _, ?_, rfl, rfl⟩
    · rw [hvalues]
      rfl
    · exact Operator.appliesTo_iff.mpr ⟨nofun, hrange⟩
    · rw [hvalues]
      exact map_coerce_toJson hp hfits hread
  | like p =>
    obtain rfl : kind = .text := htext p rfl
    obtain ⟨⟨a, s⟩, hclassify, hstated⟩ := Option.map_eq_some_iff.mp hstated
    cases hstated
    refine Condition.criterion_eq_ok_iff.mpr ⟨rfl, rfl, [.text s], _, rfl, rfl, ?_⟩
    rw [Test.asKind_like hclassify]
    rfl
  | member positive vs =>
    cases hstated
    have hne : vs ≠ [] := by
      rintro rfl
      cases hlist
    refine Condition.criterion_eq_ok_iff.mpr ⟨?_, rfl, vs.map (Literal.asKind kind), _, ?_, rfl, rfl⟩
    · simpa [Condition.values, Operator.arity, Arity.accepts, Nat.one_le_iff_ne_zero] using hne
    · exact map_coerce_toJson hp hfits hread
  | between low high =>
    obtain ⟨rfl, rfl⟩ := Prod.mk.inj (Option.some.inj hstated)
    refine Condition.criterion_eq_ok_iff.mpr ⟨rfl, ?_, [low.asKind kind, high.asKind kind], _, ?_, rfl, rfl⟩
    · exact Operator.appliesTo_iff.mpr ⟨nofun, hrange⟩
    · exact map_coerce_toJson hp hfits hread
  | null positive =>
    cases hstated
    exact Condition.criterion_eq_ok_iff.mpr ⟨rfl, rfl, [], _, rfl, rfl, rfl⟩

/-- A condition of a criterion has a criterion only if a filter can state the first one. -/
theorem isExpressible_of_condition {c e : Criterion} {k : Kind} {d : Condition} (h : c.condition k = .ok d)
    (he : d.criterion k = .ok e) : c.isExpressible = true := by
  obtain ⟨field, kind, test⟩ := c
  obtain ⟨field', operator, value⟩ := d
  obtain ⟨rfl, hfits, htext, hstated, rfl⟩ := condition_eq_ok_iff.mp h
  obtain ⟨haccepts, happlies, vs, t, hcoerce, -, -⟩ := Condition.exists_of_criterion he
  cases test with
  | compare op v =>
    obtain ⟨rfl, rfl⟩ := Prod.mk.inj (Option.some.inj hstated)
    have hvalues : (⟨field', .compare op, v.toJson⟩ : Condition).values = [v.toJson] := by
      refine values_of_scalar (fun hnull => ?_) (Literal.toJson_ne_array v)
      simp [Condition.values, hnull, Operator.arity, Arity.accepts] at haccepts
    rw [hvalues] at hcoerce
    exact isExpressible_iff.mpr ⟨(Operator.appliesTo_iff.mp happlies).2, rfl,
      isReadable_of_map_coerce hfits hcoerce⟩
  | like p => exact isExpressible_iff.mpr ⟨nofun, rfl, nofun⟩
  | member positive ws =>
    cases hstated
    refine isExpressible_iff.mpr ⟨nofun, ?_, isReadable_of_map_coerce hfits hcoerce⟩
    cases ws with
    | nil => simp [Condition.values, Operator.arity, Arity.accepts] at haccepts
    | cons w ws => rfl
  | between low high =>
    obtain ⟨rfl, rfl⟩ := Prod.mk.inj (Option.some.inj hstated)
    exact isExpressible_iff.mpr ⟨(Operator.appliesTo_iff.mp happlies).2, rfl,
      isReadable_of_map_coerce hfits hcoerce⟩
  | null positive => exact isExpressible_iff.mpr ⟨nofun, rfl, nofun⟩

end Criterion

end RowFilter
