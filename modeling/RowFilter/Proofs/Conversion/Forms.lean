import RowFilter.Proofs.Conversion.Places
import RowFilter.Proofs.Conversion.Regularity

/-! Forms of filters that state the same. A list of conditions is a group of them, an operand may stand in a group of
    its own, a right side is a last operand, and a first operand that is a group without right side is its operands.
    However deep such a change is made, the filter compiles to the same predicate. -/

namespace RowFilter

open Success Conversion

variable {r : String → Except FilterError Kind}

/-! ### Changes of form -/

/-- The other group states the same in another form. -/
inductive Group.Restates : Group → Group → Prop
  /-- The group stands in a group of its own. -/
  | enclosed (c : Connective) (g : Group) : Restates g (.uniform c [.group g])
  /-- An operand stands in a group of its own. -/
  | operand (c d : Connective) (before : List Operand) (o : Operand) (after : List Operand)
      (joints : Option (List Connective)) (right : Option Group) :
      Restates ⟨c, before ++ o :: after, joints, right⟩ ⟨c, before ++ .group (.uniform d [o]) :: after, joints, right⟩
  /-- The right side is the last operand. -/
  | appended (c : Connective) (operands : List Operand) (joints : Option (List Connective)) (g : Group) :
      Restates ⟨c, operands, joints, some g⟩ ⟨c, operands ++ [.group g], joints, none⟩
  /-- The first operand is its own operands, the connectives between them before those between the others. -/
  | spliced (c : Connective) (inner : Group) (operands : List Operand) (joints : Option (List Connective))
      (right : Option Group) : inner.rightSide = none →
      Restates ⟨c, .group inner :: operands, joints, right⟩
        ⟨c, inner.operands ++ operands,
          some (inner.connectives ++ Group.connectives ⟨c, .group inner :: operands, joints, right⟩), right⟩

/-- The other filter states the same, in another form at one place. -/
inductive Filter.Restates : Filter → Filter → Prop
  | list {ds : List Condition} : ds ≠ [] → Restates (.simple ds) (.complex (.uniform .and (ds.map .condition)))
  | group (k : Group.Context) {g g' : Group} : g.Restates g' → Restates (.complex (k.fill g)) (.complex (k.fill g'))

/-! ### Groups inside groups -/

theorem Group.mem_gatherOperands_iff {α : Type} {a : Group → List α} {b : Condition → List α} {x : α}
    {os : List Operand} : x ∈ Group.gatherOperands a b os ↔ ∃ o ∈ os, x ∈ o.gather a b := by
  induction os with
  | nil => exact ⟨nofun, nofun⟩
  | cons o os ih => rw [Group.gatherOperands, List.mem_append, ih, List.exists_mem_cons_iff]

theorem Group.mem_groups_self (g : Group) : g ∈ g.groups := by
  obtain ⟨c, operands, joints, right⟩ := g
  exact List.mem_cons_self

theorem Group.mem_groups_operand {c : Connective} {operands : List Operand} {joints : Option (List Connective)}
    {right : Option Group} {g h : Group} (hg : .group g ∈ operands) (hh : h ∈ g.groups) :
    h ∈ Group.groups ⟨c, operands, joints, right⟩ :=
  List.mem_append_right _ (List.mem_append_left _ (Group.mem_gatherOperands_iff.mpr ⟨.group g, hg, hh⟩))

theorem Group.Context.mem_groups_fill {g h : Group} (hh : h ∈ g.groups) (k : Group.Context) :
    h ∈ (k.fill g).groups := by
  induction k with
  | place => exact hh
  | operand c before k after joints right ih =>
    exact Group.mem_groups_operand (List.mem_append_right before List.mem_cons_self) ih
  | rightSide c operands joints k ih => exact List.mem_append_right _ (List.mem_append_right _ ih)

theorem Conversion.isAligned_of_ofFilter {f : Filter} {p : Predicate} (h : ofFilter r f = .ok p) :
    ∀ g ∈ f.groups, g.IsAligned := by
  rw [ofFilter_eq_settle, settle_eq_ok_iff, Filter.faults_eq_nil_iff] at h
  exact fun g hg => Group.ownFaults_eq_nil_iff.mp (h.1.1 g hg)

/-! ### Groups of one operand -/

theorem Conversion.ofOperand_enclosed (c : Connective) (o : Operand) :
    ofOperand r (.group (.uniform c [o])) = ofOperand r o := by
  rw [ofOperand, ofGroup_uniform c (List.cons_ne_nil o []), ofOperands]
  cases ofOperand r o <;> rfl

/-! ### Right sides -/

/-- Aligned groups with the same parts and the same connectives between them compile to the same. -/
theorem Conversion.ofGroup_eq_ok_congr {g g' : Group} (hg : g.IsAligned) (hg' : g'.IsAligned)
    (hparts : g.parts = g'.parts) (hconnectives : g.connectives = g'.connectives) {p : Predicate} :
    ofGroup r g = .ok p ↔ ofGroup r g' = .ok p := by
  rw [ofGroup_eq_ok_iff, ofGroup_eq_ok_iff, hparts, hconnectives]
  exact and_congr_left' (iff_of_true hg hg')

theorem Conversion.ofGroup_appended {c : Connective} {operands : List Operand} {joints : Option (List Connective)}
    {g : Group} (h : Group.IsAligned ⟨c, operands, joints, some g⟩) {p : Predicate} :
    ofGroup r ⟨c, operands, joints, some g⟩ = .ok p ↔
      ofGroup r ⟨c, operands ++ [.group g], joints, none⟩ = .ok p := by
  obtain ⟨hne, hjoints⟩ := h
  have hpos : 0 < operands.length := List.length_pos_iff.mpr hne
  refine ofGroup_eq_ok_congr ⟨hne, hjoints⟩ ⟨List.append_ne_nil_of_left_ne_nil hne _, fun cs hcs => ?_⟩ ?_ ?_
  · rw [hjoints cs hcs]
    simp
  · simp [Group.parts]
  · have hcount : operands.length - 1 + 1 = operands.length + 1 - 1 := by omega
    simp [Group.connectives, Group.jointCount, hcount]

/-! ### Nested groups -/

theorem Predicate.leftFold_append {cs ds : List Connective} {ps qs : List Predicate}
    (h : ps.length = cs.length + 1) : leftFold (cs ++ ds) (ps ++ qs) = leftFold ds (leftFold cs ps :: qs) := by
  obtain ⟨p, ps, rfl⟩ := List.exists_cons_of_length_eq_add_one h
  rw [List.cons_append, leftFold, List.zip_append (Nat.succ.inj h).symm, List.foldl_append]
  rfl

theorem Conversion.yield_append_iff {os os' : List Operand} {ps : List Predicate} :
    Yield r (os ++ os') ps ↔ ∃ qs qs', Yield r os qs ∧ Yield r os' qs' ∧ ps = qs ++ qs' := by
  unfold Yield
  simp only [← mapM_eq_ok_iff_forall₂, List.mapM_append, bind_eq_ok_iff, pure_eq_ok_iff]
  constructor
  · rintro ⟨qs, hqs, qs', hqs', rfl⟩
    exact ⟨qs, qs', hqs, hqs', rfl⟩
  · rintro ⟨qs, qs', hqs, hqs', rfl⟩
    exact ⟨qs, hqs, qs', hqs', rfl⟩

theorem Group.parts_of_rightSide_none {g : Group} (h : g.rightSide = none) : g.parts = g.operands := by
  rw [Group.parts, h]
  exact List.append_nil _

/-- A nested group at the head of a left fold contributes the left fold of its own operands. -/
theorem Conversion.exists_yield_spliced {inner : Group} (hright : inner.rightSide = none) (hinner : inner.IsAligned)
    (os : List Operand) (cs : List Connective) {p : Predicate} :
    (∃ ps, Yield r (.group inner :: os) ps ∧ p = .leftFold cs ps) ↔
      ∃ ps, Yield r (inner.operands ++ os) ps ∧ p = .leftFold (inner.connectives ++ cs) ps := by
  have hcount := hinner.length_connectives
  have hfold {ps qs : List Predicate} (hps : Yield r inner.operands ps) :
      Predicate.leftFold (inner.connectives ++ cs) (ps ++ qs) = .leftFold cs (.leftFold inner.connectives ps :: qs) := by
    refine Predicate.leftFold_append ?_
    rw [hcount, Group.parts_of_rightSide_none hright]
    exact (List.Forall₂.length_eq hps).symm
  constructor
  · rintro ⟨ps, hps, rfl⟩
    obtain ⟨q, qs, hq, hqs, rfl⟩ := List.forall₂_cons_left_iff.mp hps
    obtain ⟨-, qs', hqs', rfl⟩ := ofGroup_eq_ok_iff.mp hq
    rw [Group.parts_of_rightSide_none hright] at hqs'
    exact ⟨qs' ++ qs, yield_append_iff.mpr ⟨qs', qs, hqs', hqs, rfl⟩, (hfold hqs').symm⟩
  · rintro ⟨ps, hps, rfl⟩
    obtain ⟨qs', qs, hqs', hqs, rfl⟩ := yield_append_iff.mp hps
    have hq : ofGroup r inner = .ok (.leftFold inner.connectives qs') := by
      refine ofGroup_eq_ok_iff.mpr ⟨hinner, qs', ?_, rfl⟩
      rwa [Group.parts_of_rightSide_none hright]
    exact ⟨_, .cons hq hqs, hfold hqs'⟩

theorem Group.IsAligned.spliced {c : Connective} {inner : Group} {operands : List Operand}
    {joints : Option (List Connective)} {right : Option Group} (hright : inner.rightSide = none)
    (hinner : inner.IsAligned) (h : IsAligned ⟨c, .group inner :: operands, joints, right⟩) :
    IsAligned ⟨c, inner.operands ++ operands,
      some (inner.connectives ++ connectives ⟨c, .group inner :: operands, joints, right⟩), right⟩ := by
  have hinnerCount := hinner.length_connectives
  have hcount := h.length_connectives
  rw [parts_of_rightSide_none hright] at hinnerCount
  rw [length_parts] at hcount
  refine ⟨List.append_ne_nil_of_left_ne_nil hinner.1 _, fun cs hcs => ?_⟩
  obtain rfl := Option.some.inj hcs
  -- Each operand of the nested group but the first brings a connective; the first takes the place of the group.
  simp only [List.length_append, List.length_cons] at hcount ⊢
  omega

theorem Conversion.ofGroup_spliced {c : Connective} {inner : Group} {operands : List Operand}
    {joints : Option (List Connective)} {right : Option Group} (hright : inner.rightSide = none)
    (hinner : inner.IsAligned) (h : Group.IsAligned ⟨c, .group inner :: operands, joints, right⟩) {p : Predicate} :
    ofGroup r ⟨c, .group inner :: operands, joints, right⟩ = .ok p ↔
      ofGroup r ⟨c, inner.operands ++ operands,
        some (inner.connectives ++ Group.connectives ⟨c, .group inner :: operands, joints, right⟩), right⟩ = .ok p := by
  rw [ofGroup_eq_ok_iff, ofGroup_eq_ok_iff]
  refine and_congr (iff_of_true h (hinner.spliced hright h)) ?_
  have hparts : Group.parts ⟨c, inner.operands ++ operands,
      some (inner.connectives ++ Group.connectives ⟨c, .group inner :: operands, joints, right⟩), right⟩ =
        inner.operands ++ (operands ++ right.toList.map .group) := List.append_assoc ..
  rw [hparts]
  exact exists_yield_spliced hright hinner _ _

/-! ### Changes at any depth -/

theorem Operand.entails_eq_iff {o o' : Operand} :
    o.Entails r (· = ·) o' ↔ ∀ p, ofOperand r o = .ok p → ofOperand r o' = .ok p := by
  refine forall₂_congr fun p _ => ?_
  constructor
  · rintro ⟨_, hp', rfl⟩
    exact hp'
  · exact fun hp' => ⟨p, hp', rfl⟩

theorem Conversion.ofGroup_enclosed_operand (c d : Connective) (before : List Operand) (o : Operand)
    (after : List Operand) (joints : Option (List Connective)) (right : Option Group) {p : Predicate} :
    ofGroup r ⟨c, before ++ o :: after, joints, right⟩ = .ok p ↔
      ofGroup r ⟨c, before ++ .group (.uniform d [o]) :: after, joints, right⟩ = .ok p := by
  have hequal := ofOperand_enclosed (r := r) d o
  have hto := Operand.entails_eq_iff.mpr fun p hp => hequal.trans hp
  have hfrom := Operand.entails_eq_iff.mpr fun p hp => hequal.symm.trans hp
  exact ⟨Operand.entails_eq_iff.mp (hto.operand Predicate.isCongruence_eq c before after joints right) p,
    Operand.entails_eq_iff.mp (hfrom.operand Predicate.isCongruence_eq c before after joints right) p⟩

theorem Group.Restates.ofGroup_iff {g g' : Group} (h : g.Restates g') (haligned : ∀ h ∈ g.groups, h.IsAligned)
    (p : Predicate) : ofGroup r g = .ok p ↔ ofGroup r g' = .ok p := by
  have hself := haligned g g.mem_groups_self
  cases h with
  | enclosed c g =>
    have henclosed : ofGroup r (.uniform c [.group g]) = ofGroup r g := ofOperand_enclosed c (.group g)
    rw [henclosed]
  | operand c d before o after joints right => exact ofGroup_enclosed_operand c d before o after joints right
  | appended c operands joints g => exact ofGroup_appended hself
  | spliced c inner operands joints right hright =>
    have hinner := haligned inner (mem_groups_operand List.mem_cons_self inner.mem_groups_self)
    exact ofGroup_spliced hright hinner hself

theorem Group.Context.ofGroup_fill_iff (k : Group.Context) {g g' : Group}
    (h : ∀ p, ofGroup r g = .ok p ↔ ofGroup r g' = .ok p) (p : Predicate) :
    ofGroup r (k.fill g) = .ok p ↔ ofGroup r (k.fill g') = .ok p := by
  have hto : Operand.Entails r (· = ·) (.group g) (.group g') := Operand.entails_eq_iff.mpr fun p => (h p).mp
  have hfrom : Operand.Entails r (· = ·) (.group g') (.group g) := Operand.entails_eq_iff.mpr fun p => (h p).mpr
  exact ⟨Operand.entails_eq_iff.mp (k.entails_fill Predicate.isCongruence_eq hto) p,
    Operand.entails_eq_iff.mp (k.entails_fill Predicate.isCongruence_eq hfrom) p⟩

theorem Filter.Restates.ofFilter_iff {f f' : Filter} (h : f.Restates f') (haligned : ∀ g ∈ f.groups, g.IsAligned)
    (p : Predicate) : ofFilter r f = .ok p ↔ ofFilter r f' = .ok p := by
  cases h with
  | list hne =>
    rw [ofFilter_simple hne]
    rfl
  | group k h =>
    exact k.ofGroup_fill_iff (h.ofGroup_iff fun g hg => haligned g (k.mem_groups_fill hg)) p

/-- A filter in which some form is replaced by another one for the same compiles to the same predicate. Conversely the
    filter compiles if the other one does and each of its groups has connectives for its joints, which the other form
    may hide. -/
theorem Schema.compile_restates (s : Schema) (entity : String) {f f' : Filter} (h : f.Restates f') (p : Predicate) :
    s.compile entity f = .ok p ↔ (∀ g ∈ f.groups, g.IsAligned) ∧ s.compile entity f' = .ok p := by
  constructor
  · intro hp
    have haligned := isAligned_of_ofFilter hp
    exact ⟨haligned, (h.ofFilter_iff haligned p).mp hp⟩
  · rintro ⟨haligned, hp⟩
    exact (h.ofFilter_iff haligned p).mpr hp

/-- Connectives of a nested group before those of the group around it, which is itself a right side and has one. -/
theorem Schema.compile_restates_nested :
    let s : Schema := ⟨[("item", [("age", .value .integer), ("name", .value .text)])]⟩
    let old : Operand := .condition ⟨"age", .compare .gt, .number (.integer 9)⟩
    let unnamed : Operand := .condition ⟨"name", .null true, .null⟩
    let inner : Group := ⟨.or, [old, unnamed, old], some [.and, .or], none⟩
    let f : Filter := .complex ⟨.and, [unnamed], some [.or],
      some ⟨.or, [.group inner, unnamed], some [.and, .or], some (.uniform .and [old])⟩⟩
    let f' : Filter := .complex ⟨.and, [unnamed], some [.or],
      some ⟨.or, [old, unnamed, old, unnamed], some [.and, .or, .and, .or], some (.uniform .and [old])⟩⟩
    f.Restates f' ∧ ∃ p, s.compile "item" f = .ok p ∧ s.compile "item" f' = .ok p := by
  intro s old unnamed inner f f'
  have h : f.Restates f' := .group (.rightSide .and [unnamed] (some [.or]) .place)
    (.spliced .or inner [unnamed] (some [.and, .or]) (some (.uniform .and [old])) rfl)
  obtain ⟨p, hp⟩ : ∃ p, s.compile "item" f = .ok p := ⟨_, rfl⟩
  exact ⟨h, p, hp, ((compile_restates s "item" h p).mp hp).2⟩

end RowFilter
