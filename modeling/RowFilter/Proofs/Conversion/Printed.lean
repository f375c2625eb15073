import RowFilter.Proofs.Conversion.RoundTrip
import RowFilter.Proofs.Filter.Text
import RowFilter.Proofs.Keyed

/-! Recovered filters in print. Where all fields are exact in print, the text of a recovered filter is read
    as that filter as long as it is not deeper than documents may be, and is no document otherwise. The
    recovered filter can be much deeper than the one that was compiled. -/

namespace RowFilter

open Success Conversion

variable {r : String → Except FilterError Kind}

/-! ### Kinds of a schema -/

/-- The literals of the kind are read as themselves from their text, whatever they are. -/
def Kind.isExact : Kind → Bool
  | .float | .dateTime => false
  | _ => true

namespace Schema

/-- No field of the schema holds doubles or moments. -/
def isExact (s : Schema) : Bool :=
  s.entities.all fun e => e.2.all fun f => match f.2 with
    | .value k => k.isExact
    | .relation _ => true

/-- The kind at the end of a path is that of a field of the schema. -/
theorem walk_isExact {s : Schema} (hs : s.isExact = true) {entity path : String} {resolved names : List String}
    {fields : Fields} (hf : ∀ f ∈ fields, ∀ k, f.2 = .value k → k.isExact = true) {k : Kind}
    (h : s.walk entity path resolved fields names = .ok k) : k.isExact = true := by
  induction names generalizing resolved fields with
  | nil => cases h
  | cons name rest ih =>
    rw [walk] at h
    split at h
    · cases h
    · next k' hk' =>
      split at h
      · cases h
        exact hf _ (Keyed.mem_of_find? hk') _ rfl
      · cases h
    · next target _ =>
      split at h
      · cases h
      · split at h
        · cases h
        · next fields' hfields' =>
          have hmem := List.all_eq_true.mp hs _ (Keyed.mem_of_find? hfields')
          refine ih (fun f hf k hk => ?_) h
          have hkind := List.all_eq_true.mp hmem f hf
          rwa [hk] at hkind

theorem kindOf_isExact {s : Schema} (hs : s.isExact = true) {entity field : String} {k : Kind}
    (h : s.kindOf entity field = .ok k) : k.isExact = true := by
  unfold kindOf at h
  split at h
  · next k' hk' =>
    cases h
    unfold resolve at hk'
    split at hk'
    · cases hk'
    · next fields hfields =>
      have hmem := List.all_eq_true.mp hs _ (Keyed.mem_of_find? hfields)
      refine walk_isExact hs (fun f hf k hk => ?_) hk'
      have hkind := List.all_eq_true.mp hmem f hf
      rwa [hk] at hkind
  · cases h

end Schema

/-! ### Values of recovered conditions -/

namespace Literal

theorem isReadable_of_isExact {v : Literal} (h : v.kind.isExact = true) : v.isReadable = true := by
  cases v with
  | float d => cases h
  | dateTime m => cases h
  | _ => rfl

theorem isExact_toJson {v : Literal} (hp : v.IsProper) (h : v.kind.isExact = true) : v.toJson.IsExact := by
  cases v with
  | integer i => exact .number (JsonNumber.isKept_of_isSigned hp).isExact
  | float d => cases h
  | text s => exact .text s
  | boolean b => exact .bool b
  | date d => exact .text _
  | dateTime m => cases h
  | uuid u => exact .text _

theorem isCanonical_toJson (v : Literal) : v.toJson.IsCanonical := by
  cases v with
  | float d =>
    rw [toJson]
    split <;> rfl
  | _ => rfl

theorem depth_toJson (v : Literal) : v.toJson.depth = 0 := by
  cases v with
  | float d =>
    rw [toJson]
    split <;> rfl
  | _ => rfl

theorem isCanonical_toJsons (vs : List Literal) : (Json.array (vs.map toJson)).IsCanonical := by
  have hitems : Json.canonicalItems (vs.map toJson) = vs.map toJson := by
    induction vs with
    | nil => rfl
    | cons v vs ih => rw [List.map_cons, Json.canonicalItems, ih, isCanonical_toJson v]
  exact congrArg Json.array hitems

theorem depth_toJsons (vs : List Literal) : (Json.array (vs.map toJson)).depth ≤ 1 := by
  refine Nat.succ_le_succ (Json.depthItems_le_iff.mpr fun j hj => ?_)
  obtain ⟨v, -, rfl⟩ := List.mem_map.mp hj
  exact Nat.le_of_eq (depth_toJson v)

end Literal

/-- The value that states a test is a scalar or a list of scalars, and is read as itself if the literals
    are. -/
theorem Test.value_of_stated? {t : Test} {o : Operator} {j : Json} (h : t.stated? = some (o, j))
    (hv : ∀ v ∈ t.literals, v.toJson.IsExact) : j.IsExact ∧ j.IsCanonical ∧ j.depth ≤ 1 := by
  cases t with
  | compare c v =>
    obtain ⟨-, rfl⟩ := Prod.mk.inj (Option.some.inj h)
    have hdepth : v.toJson.depth ≤ 1 := Nat.le_trans (Nat.le_of_eq (Literal.depth_toJson v)) (Nat.zero_le 1)
    exact ⟨hv v (List.mem_singleton_self v), Literal.isCanonical_toJson v, hdepth⟩
  | like p =>
    obtain ⟨⟨a, s⟩, -, h⟩ := Option.map_eq_some_iff.mp h
    cases h
    exact ⟨.text s, rfl, Nat.zero_le 1⟩
  | member positive vs =>
    cases h
    refine ⟨.array fun j hj => ?_, Literal.isCanonical_toJsons vs, Literal.depth_toJsons vs⟩
    obtain ⟨v, hv', rfl⟩ := List.mem_map.mp hj
    exact hv v hv'
  | between low high =>
    obtain ⟨-, rfl⟩ := Prod.mk.inj (Option.some.inj h)
    refine ⟨.array fun j hj => ?_, Literal.isCanonical_toJsons [low, high], Literal.depth_toJsons [low, high]⟩
    have hj' : j ∈ [low, high].map Literal.toJson := hj
    obtain ⟨v, hv', rfl⟩ := List.mem_map.mp hj'
    exact hv v hv'
  | null positive =>
    cases h
    exact ⟨.null, rfl, Nat.zero_le 1⟩

/-! ### Recovered filters -/

/-- The values of a recovered filter are read as themselves where all fields are exact in print. -/
theorem Schema.values_of_recover {s : Schema} (hs : s.isExact = true) {entity : String} {f w : Filter} {p : Predicate}
    (hc : s.compile entity f = .ok p) (hw : s.recover entity p = .ok w) :
    ∀ d ∈ w.conditions, d.value.IsExact ∧ d.value.IsCanonical ∧ d.value.depth ≤ 1 := by
  intro d hd
  obtain ⟨c, hc', hcd⟩ := exists_of_mem_mapM (joined_of_toFilter hw).2 hd
  obtain ⟨k, -, hcondition⟩ := toCondition_eq_ok_iff.mp hcd
  obtain ⟨-, -, -, hstated, -⟩ := Criterion.condition_eq_ok_iff.mp hcondition
  obtain ⟨e, -, k', hk', hcriterion⟩ := exists_condition_of_criteria hc hc'
  refine Test.value_of_stated? hstated fun v hv => ?_
  obtain ⟨j, -, hj⟩ := Criterion.literals_of_criterion hcriterion v hv
  obtain ⟨rfl, hproper⟩ := Literal.of_coerce hj
  exact Literal.isExact_toJson hproper (Schema.kindOf_isExact hs hk')

theorem Condition.depth_toJson {c : Condition} (h : c.value.depth ≤ 1) : c.toJson.depth ≤ 2 := by
  refine Nat.succ_le_succ (Json.depthMembers_le_iff.mpr fun m hm => ?_)
  unfold Condition.members at hm
  rcases List.mem_append.mp hm with hm | hm
  · rcases List.mem_cons.mp hm with rfl | hm
    · exact Nat.zero_le 1
    · obtain rfl := List.mem_singleton.mp hm
      exact Nat.zero_le 1
  · split at hm
    · cases hm
    · obtain rfl := List.mem_singleton.mp hm
      exact h

namespace Filter

/-- What the reader of the query parameter makes of the text that the parameter carries for the filter. -/
def readBack (f : Filter) : Except FilterError Filter :=
  match f.parameter? with
  | none => .ok .empty
  | some (name, text) => if name = simpleName then readSimple text else readComplex text

theorem readBack_simple (cs : List Condition) : (simple cs).readBack = readSimple (simple cs).toJson.compact := by
  unfold readBack parameter? parameterName?
  exact if_pos rfl

theorem readBack_complex (g : Group) : (complex g).readBack = readComplex (complex g).toJson.compact := by
  have hne : complexName ≠ simpleName := by decide
  unfold readBack parameter? parameterName?
  exact if_neg hne

/-- The text of a list of conditions is not deep. -/
theorem depth_simple {cs : List Condition} (h : ∀ c ∈ cs, c.value.depth ≤ 1) : (simple cs).toJson.depth ≤ 3 := by
  refine Nat.succ_le_succ (Json.depthItems_le_iff.mpr fun j hj => ?_)
  obtain ⟨c, hc, rfl⟩ := List.mem_map.mp hj
  exact Condition.depth_toJson (h c hc)

/-- The text of a filter with exact and shallow values is read as the filter, or is too deep. -/
theorem readBack_eq {f : Filter} (h : ∀ d ∈ f.conditions, d.value.IsExact ∧ d.value.IsCanonical ∧ d.value.depth ≤ 1) :
    f.readBack = if f.toJson.depth ≤ Json.maxDepth then .ok f else .error (.malformed .notJson) := by
  cases f with
  | empty => rfl
  | simple cs =>
    have hdepth : (simple cs).toJson.depth ≤ Json.maxDepth :=
      Nat.le_trans (depth_simple fun c hc => (h c hc).2.2) (by decide)
    rw [if_pos hdepth, readBack_simple]
    exact readSimple_compact (fun c hc => (h c hc).1) (fun c hc => (h c hc).2.1) hdepth
  | complex g =>
    rw [readBack_complex]
    exact readComplex_compact (fun c hc => (h c hc).1) (fun c hc => (h c hc).2.1)

end Filter

/-- Where no field holds doubles or moments, the text of a recovered filter is read as that filter exactly
    if it is not deeper than documents may be, and is no document otherwise. So it compiles to the same
    predicate exactly if it is not too deep. -/
theorem Schema.recover_readBack {s : Schema} (hs : s.isExact = true) {entity : String} {f : Filter} {p : Predicate}
    (hc : s.compile entity f = .ok p) : ∃ w, s.recover entity p = .ok w ∧
      w.readBack = (if w.toJson.depth ≤ Json.maxDepth then .ok w else .error (.malformed .notJson)) ∧
      ((∃ w', w.readBack = .ok w' ∧ s.compile entity w' = .ok p) ↔ w.toJson.depth ≤ Json.maxDepth) := by
  obtain ⟨w, hw, hcompile⟩ := exists_toFilter_ofFilter hc fun c hc' v hv => by
    obtain ⟨e, -, k, hk, hcriterion⟩ := exists_condition_of_criteria hc hc'
    obtain ⟨j, -, hj⟩ := Criterion.literals_of_criterion hcriterion v hv
    obtain ⟨rfl, -⟩ := Literal.of_coerce hj
    exact Literal.isReadable_of_isExact (Schema.kindOf_isExact hs hk)
  have hread := Filter.readBack_eq (Schema.values_of_recover hs hc hw)
  refine ⟨w, hw, hread, ?_, fun hdepth => ⟨w, ?_, hcompile⟩⟩
  · rintro ⟨w', hw', -⟩
    rw [hread] at hw'
    by_cases hdepth : w.toJson.depth ≤ Json.maxDepth
    · exact hdepth
    · rw [if_neg hdepth] at hw'
      cases hw'
  · rw [hread, if_pos hdepth]

/-- A choice among groups with different connectives, compiled and recovered and read back from its text. -/
theorem Schema.recover_readBack_choice :
    let s : Schema := ⟨[("user", [("age", .value .integer), ("name", .value .text)])]⟩
    let adults : Group := .uniform .and [.condition ⟨"age", .compare .gte, .text "18"⟩,
      .condition ⟨"name", .pattern .front, .text "A%"⟩]
    let f : Filter := .complex (.uniform .or [.group adults, .group adults, .condition ⟨"age", .null true, .null⟩])
    ∃ p w w', s.compile "user" f = .ok p ∧ s.recover "user" p = .ok w ∧ w.readBack = .ok w' ∧
      s.compile "user" w' = .ok p := by
  intro s adults f
  obtain ⟨p, w, hp, hw, hdepth⟩ : ∃ p w, s.compile "user" f = .ok p ∧ s.recover "user" p = .ok w ∧
      w.toJson.depth ≤ Json.maxDepth :=
    ⟨_, _, rfl, rfl, by decide⟩
  obtain ⟨v, hv, -, hread⟩ := recover_readBack (show s.isExact = true from rfl) hp
  obtain rfl : w = v := Except.ok.inj (hw.symm.trans hv)
  obtain ⟨w', hw', hcompile⟩ := hread.mpr hdepth
  exact ⟨p, w, w', hp, hw, hw', hcompile⟩

/-! ### Shallow filters with deep recoveries -/

namespace PartialGroup

/-- A group that has a right side stands two deeper once another group is joined to it. -/
theorem depth_nest {g : PartialGroup} (hg : g.rightSide.isSome = true) (c : Connective) (right : Group) :
    g.finish.toJson.depth + 2 ≤ (g.nest c right).finish.toJson.depth := by
  obtain ⟨right', hright'⟩ := Option.isSome_iff_exists.mp hg
  have hnest : g.nest c right = ⟨[.group g.finish], [c], some right⟩ := by
    unfold nest
    rw [hright']
  obtain ⟨members, hmembers⟩ := Decoding.exists_toJson_eq (g.nest c right).finish
  rw [hmembers, hnest]
  simp only [finish, Operand.toJsons, Operand.toJson, Json.depth, Json.depthMembers, Json.depthMember, Json.depthItems]
  omega

/-- A right side stands one deep in its group. -/
theorem depth_right_lt {g : Group} {right : Group} (h : g.rightSide = some right) :
    right.toJson.depth + 1 ≤ g.toJson.depth := by
  obtain ⟨c, os, js, right'⟩ := g
  obtain rfl : right' = some right := h
  have hmember : ∀ members : List (String × Json), ("rightSideOperands", right.toJson) ∈ members →
      right.toJson.depth + 1 ≤ (Json.object members).depth := fun members hm =>
    Nat.succ_le_succ (Json.depthMembers_le_iff.mp (Nat.le_refl _) _ hm)
  exact hmember _ (List.mem_append_right _ (List.mem_singleton_self _))

theorem rightSide_nest (g : PartialGroup) (c : Connective) (right : Group) :
    (g.nest c right).finish.rightSide = some right := by
  unfold nest
  split <;> rfl

end PartialGroup

/-- Two conditions that both must hold. -/
def Group.pair (a b : Condition) : Group :=
  .uniform .and [.condition a, .condition b]

/-- Pairs of conditions side by side, one of which must hold. -/
def Group.pairs (a b : Condition) (n : Nat) : Group :=
  .uniform .or (List.replicate n (.group (.pair a b)))

/-- The predicate of two criteria that both must hold. -/
def Predicate.pair (c d : Criterion) : Predicate :=
  .join .and (.leaf c) (.leaf d)

theorem depth_uniform (c : Connective) {os : List Operand} {m : Nat} (h : ∀ o ∈ os, o.toJson.depth ≤ m) :
    (Group.uniform c os).toJson.depth ≤ m + 2 := by
  have hitems : Json.depthItems (Operand.toJsons os) ≤ m := by
    induction os with
    | nil => exact Nat.zero_le m
    | cons o os ih =>
      obtain ⟨ho, hos⟩ := List.forall_mem_cons.mp h
      exact Nat.max_le.mpr ⟨ho, ih hos⟩
  have hjson : (Group.uniform c os).toJson =
      .object [("operator", .text c.name), ("operations", .array (Operand.toJsons os))] := rfl
  rw [hjson]
  simp only [Json.depth, Json.depthMembers, Json.depthMember]
  omega

section
variable {a b : Condition} {c d : Criterion}

theorem ofGroup_pairs (ha : ofCondition r a = .ok (.leaf c)) (hb : ofCondition r b = .ok (.leaf d)) (n : Nat) :
    ofGroup r (.pairs a b (n + 1)) = .ok (Predicate.chain (fun _ => .or) (List.replicate (n + 1) (.pair c d))) := by
  have hpair : ofGroup r (.pair a b) = .ok (.pair c d) := by
    rw [Group.pair, ofGroup_uniform .and (List.cons_ne_nil _ _), ofOperands, ofOperand, ha, ofOperands, ofOperand, hb,
      ofOperands]
    rfl
  have hoperands : ∀ m, ofOperands r (List.replicate m (.group (.pair a b))) = .ok (List.replicate m (.pair c d)) := by
    intro m
    induction m with
    | zero => rfl
    | succ m ih =>
      rw [List.replicate_succ, ofOperands, ofOperand, hpair, ih]
      rfl
  have hne : List.replicate (n + 1) (Operand.group (.pair a b)) ≠ [] := List.cons_ne_nil _ _
  rw [Group.pairs, ofGroup_uniform .or hne, hoperands]
  rfl

/-- Each pair but the first one makes the recovered group two deeper. -/
theorem exists_toGroup_pairs (hc : toCondition r c = .ok a) (hd : toCondition r d = .ok b) (n : Nat) :
    ∃ g, toGroup r (Predicate.chain (fun _ => .or) (List.replicate (n + 1) (.pair c d))) = .ok g ∧
      2 * n + 2 ≤ g.finish.toJson.depth ∧ (0 < n → g.rightSide.isSome = true) := by
  obtain ⟨first, hfirst, hdepth⟩ : ∃ first, toGroup r (.pair c d) = .ok first ∧ 3 ≤ first.finish.toJson.depth := by
    refine ⟨⟨[.condition a, .condition b], [.and], none⟩, ?_, ?_⟩
    · rw [Predicate.pair, toGroup_join_leaf, toGroup, hc, hd]
      rfl
    · obtain ⟨members, hmembers⟩ := Decoding.exists_toJson_eq
        (PartialGroup.finish ⟨[.condition a, .condition b], [.and], none⟩)
      rw [hmembers]
      simp only [PartialGroup.finish, Operand.toJsons, Operand.toJson, Condition.toJson, Json.depth, Json.depthMembers,
        Json.depthMember, Json.depthItems]
      omega
  induction n with
  | zero => exact ⟨first, hfirst, Nat.le_trans (by decide) hdepth, fun h => absurd h (Nat.lt_irrefl 0)⟩
  | succ n ih =>
    obtain ⟨g, hg, hdeep, hright⟩ := ih
    refine ⟨g.nest .or first.finish, ?_, ?_, fun _ => Option.isSome_of_eq_some (g.rightSide_nest _ _)⟩
    · have hne : List.replicate (n + 1) (Predicate.pair c d) ≠ [] := List.cons_ne_nil _ _
      have hjoin : ∀ p, toGroup r (.join .or p (.pair c d)) = do
          let g ← toGroup r p
          let g' ← toGroup r (.pair c d)
          return g.nest .or g'.finish := fun p => toGroup_join_join .or p .and (.leaf c) (.leaf d)
      rw [List.replicate_succ', Predicate.chain_concat .or hne, hjoin, hg, hfirst]
      rfl
    · rcases Nat.eq_zero_or_pos n with rfl | hpos
      · have hlt := PartialGroup.depth_right_lt (g.rightSide_nest .or first.finish)
        omega
      · have hnest := PartialGroup.depth_nest (hright hpos) .or first.finish
        omega

/-- Pairs side by side are not deep, however many there are. -/
theorem depth_pairs (ha : a.value.depth ≤ 1) (hb : b.value.depth ≤ 1) (n : Nat) :
    (Group.pairs a b n).toJson.depth ≤ 6 := by
  have hpair : (Group.pair a b).toJson.depth ≤ 4 := by
    refine depth_uniform .and (List.forall_mem_cons.mpr ⟨?_, List.forall_mem_singleton.mpr ?_⟩)
    · exact Condition.depth_toJson ha
    · exact Condition.depth_toJson hb
  refine depth_uniform .or fun o ho => ?_
  obtain rfl := List.eq_of_mem_replicate ho
  exact hpair

theorem mem_conditions_pairs {x : Condition} {n : Nat} (h : x ∈ (Group.pairs a b n).conditions) : x = a ∨ x = b := by
  rw [Group.pairs, Group.uniform, Group.conditions, Group.rightConditions, List.append_nil] at h
  induction n with
  | zero => cases h
  | succ n ih =>
    rw [List.replicate_succ, Group.operandConditions] at h
    rcases List.mem_append.mp h with h | h
    · have hpair : x ∈ [a, b] := h
      simpa using hpair
    · exact ih h

end

theorem PartialGroup.toFilter_of_isSome {g : PartialGroup} (h : g.rightSide.isSome = true) :
    g.toFilter = .complex g.finish := by
  unfold toFilter
  split
  · next hnone _ _ =>
    rw [hnone] at h
    cases h
  · rfl

/-- Not every recovered filter can be read back from its text: sixty-four pairs of conditions side by side,
    in a text that is six deep at most, are recovered as a group a hundred and twenty-eight deep. -/
theorem Schema.recover_not_readBack :
    ¬∀ (s : Schema) (entity t : String) (f : Filter) (p : Predicate), s.isExact = true →
      (Filter.readSimple t = .ok f ∨ Filter.readComplex t = .ok f ∨ Filter.read t = .ok f) →
      s.compile entity f = .ok p →
      ∃ w w', s.recover entity p = .ok w ∧ w.readBack = .ok w' ∧ s.compile entity w' = .ok p := by
  intro h
  obtain ⟨s, a, c, hs, hvalue, hcompile, hrecover⟩ : ∃ (s : Schema) (a : Condition) (c : Criterion), s.isExact = true ∧
      (a.value.IsExact ∧ a.value.IsCanonical ∧ a.value.depth ≤ 1) ∧
      ofCondition (s.kindOf "user") a = .ok (.leaf c) ∧ toCondition (s.kindOf "user") c = .ok a :=
    ⟨⟨[("user", [("name", .value .text)])]⟩, ⟨"name", .null true, .null⟩, ⟨"name", .text, .null true⟩, rfl,
      ⟨.null, rfl, Nat.zero_le 1⟩, rfl, rfl⟩
  have hconditions : ∀ x ∈ (Group.pairs a a 64).conditions, x.value.IsExact ∧ x.value.IsCanonical := fun x hx => by
    obtain rfl | rfl := mem_conditions_pairs hx <;> exact ⟨hvalue.1, hvalue.2.1⟩
  have hread : Filter.readComplex (Filter.complex (.pairs a a 64)).toJson.compact = .ok (.complex (.pairs a a 64)) := by
    rw [Filter.readComplex_compact (fun x hx => (hconditions x hx).1) (fun x hx => (hconditions x hx).2),
      if_pos (Nat.le_trans (depth_pairs hvalue.2.2 hvalue.2.2 64) (by decide))]
  have hpairs : s.compile "user" (.complex (.pairs a a 64)) = .ok _ := ofGroup_pairs hcompile hcompile 63
  obtain ⟨g, hg, hdeep, hright⟩ := exists_toGroup_pairs hrecover hrecover 63
  obtain ⟨w, w', hw, hread', -⟩ := h s "user" _ _ _ hs (.inr (.inl hread)) hpairs
  obtain rfl : Filter.complex g.finish = w := by
    have hfilter : s.recover "user" _ = .ok g.toFilter := toFilter_of_toGroup hg
    rw [PartialGroup.toFilter_of_isSome (hright (by decide))] at hfilter
    exact Except.ok.inj (hfilter.symm.trans hw)
  have hdepth : ¬(Filter.complex g.finish).toJson.depth ≤ Json.maxDepth := by
    have hmax : Json.maxDepth = 127 := rfl
    rw [Filter.toJson, hmax]
    omega
  rw [Filter.readBack_eq (Schema.values_of_recover hs hpairs hw), if_neg hdepth] at hread'
  cases hread'

end RowFilter
