import RowFilter.Proofs.Number.Rounding

/-! Comparisons that may be undefined, and the order of doubles. Doubles that are numbers are totally ordered, and
    of two integers the smaller one never has the greater nearest double. -/

namespace RowFilter

/-! ### Partial comparisons -/

/-- A comparison that is defined and does not say "greater". -/
def IsAtMost (o : Option Ordering) : Prop :=
  ∃ x, o = some x ∧ x.isLE = true

/-- Of three values in a row the first one is at most the last, and equal to it exactly if it is equal to the one
    between them and that is equal to the last. -/
structure Composes (first second whole : Option Ordering) : Prop where
  isAtMost : IsAtMost whole
  eq_iff : whole = some .eq ↔ first = some .eq ∧ second = some .eq

theorem not_isAtMost_none : ¬IsAtMost none :=
  nofun

theorem isAtMost_some {x : Ordering} : IsAtMost (some x) ↔ x.isLE = true := by
  simp [IsAtMost]

theorem isAtMost_of_eq {o : Option Ordering} (h : o = some .eq) : IsAtMost o :=
  ⟨.eq, h, rfl⟩

/-- Total orders compose. -/
theorem composes_of_transCmp {α : Type} {cmp : α → α → Ordering} [Std.TransCmp cmp] {a b c : α}
    (hab : IsAtMost (some (cmp a b))) (hbc : IsAtMost (some (cmp b c))) :
    Composes (some (cmp a b)) (some (cmp b c)) (some (cmp a c)) := by
  rw [isAtMost_some] at hab hbc
  refine ⟨isAtMost_some.mpr (Std.TransCmp.isLE_trans hab hbc), ?_⟩
  simp only [Option.some.injEq]
  constructor
  · intro hac
    have hca : (cmp c a).isLE = true := by
      have hswap : cmp c a = (cmp a c).swap := Std.OrientedCmp.eq_swap
      rw [hswap, hac]
      rfl
    exact ⟨Std.OrientedCmp.isLE_antisymm hab (Std.TransCmp.isLE_trans hbc hca),
      Std.OrientedCmp.isLE_antisymm hbc (Std.TransCmp.isLE_trans hca hab)⟩
  · rintro ⟨hab, hbc⟩
    exact Std.TransCmp.eq_trans hab hbc

/-! ### Doubles -/

namespace Double

/-- The place of a double in the order: below, among or above the finite ones, and the units among these. -/
def rank? : Double → Option (Int × Int)
  | nan => none
  | infinite negative => some (if negative then -1 else 1, 0)
  | finite negative units => some (0, signedUnits negative units)

/-- The order of places. -/
def compareRanks : Int × Int → Int × Int → Ordering :=
  compareLex (compareOn Prod.fst) (compareOn Prod.snd)

instance : Std.TransCmp compareRanks :=
  inferInstanceAs (Std.TransCmp (compareLex _ _))

theorem compare_eq_compareRanks (a b : Double) :
    a.compare b = (rank? a).bind fun x => (rank? b).map fun y => compareRanks x y := by
  cases a with
  | nan => rfl
  | infinite s =>
    cases b with
    | nan => rfl
    | infinite t => cases s <;> cases t <;> rfl
    | finite t v => cases s <;> rfl
  | finite s u =>
    cases b with
    | nan => rfl
    | infinite t => cases t <;> rfl
    | finite t v => rfl

theorem compare_swap (a b : Double) : b.compare a = (a.compare b).map Ordering.swap := by
  rw [compare_eq_compareRanks, compare_eq_compareRanks]
  cases rank? a with
  | none => cases rank? b <;> rfl
  | some x =>
    cases rank? b with
    | none => rfl
    | some y =>
      have hswap : compareRanks y x = (compareRanks x y).swap := Std.OrientedCmp.eq_swap
      exact congrArg some hswap

theorem composes {a b c : Double} (hab : IsAtMost (a.compare b)) (hbc : IsAtMost (b.compare c)) :
    Composes (a.compare b) (b.compare c) (a.compare c) := by
  simp only [compare_eq_compareRanks] at hab hbc ⊢
  cases ha : rank? a with
  | none =>
    rw [ha] at hab
    exact absurd hab not_isAtMost_none
  | some x =>
    cases hb : rank? b with
    | none =>
      rw [hb] at hbc
      exact absurd hbc not_isAtMost_none
    | some y =>
      cases hc : rank? c with
      | none =>
        rw [hb, hc] at hbc
        exact absurd hbc not_isAtMost_none
      | some z =>
        rw [ha, hb] at hab
        rw [hb, hc] at hbc
        exact composes_of_transCmp hab hbc

theorem isLE_compareRanks_iff {x y : Int × Int} :
    (compareRanks x y).isLE = true ↔ x.1 < y.1 ∨ x.1 = y.1 ∧ x.2 ≤ y.2 := by
  show ((Ord.compare x.1 y.1).then (Ord.compare x.2 y.2)).isLE = true ↔ _
  rcases Int.lt_trichotomy x.1 y.1 with hlt | heq | hgt
  · rw [Int.compare_eq_lt.mpr hlt]
    exact iff_of_true rfl (.inl hlt)
  · rw [Int.compare_eq_eq.mpr heq]
    exact Std.isLE_compare.trans ⟨fun h => .inr ⟨heq, h⟩, fun h => by omega⟩
  · rw [Int.compare_eq_gt.mpr hgt]
    exact iff_of_false nofun (by omega)

/-! ### Integers as doubles -/

/-- The place of a signed number of units, infinite from the bound on. -/
def place (z : Int) : Int × Int :=
  if z ≤ -bound then (-1, 0) else if bound ≤ z then (1, 0) else (0, z)

theorem bound_pos : 0 < bound := by
  rw [bound]
  exact Nat.two_pow_pos 2098

theorem rank?_ofUnits (negative : Bool) (units : Nat) :
    rank? (ofUnits negative units) = some (place (signedUnits negative units)) := by
  have hbound := bound_pos
  unfold ofUnits place signedUnits
  cases negative <;> simp only [if_true, Bool.false_eq_true, if_false] <;> repeat' split
  all_goals first | rfl | omega

theorem place_mono {z w : Int} (h : z ≤ w) : (compareRanks (place z) (place w)).isLE = true := by
  have hbound := bound_pos
  rw [isLE_compareRanks_iff]
  unfold place
  repeat' split
  all_goals
    dsimp only
    omega

theorem ofInt_eq_ofUnits (i : Int) : ofInt i = ofUnits (decide (i < 0)) (roundUnits (i.natAbs * one) 1) :=
  rfl

theorem signedUnits_mono {i j : Int} (h : i ≤ j) :
    signedUnits (decide (i < 0)) (roundUnits (i.natAbs * one) 1) ≤
      signedUnits (decide (j < 0)) (roundUnits (j.natAbs * one) 1) := by
  by_cases hi : i < 0
  · by_cases hj : j < 0
    · have hunits : roundUnits (j.natAbs * one) 1 ≤ roundUnits (i.natAbs * one) 1 :=
        roundUnits_mono (Nat.mul_le_mul_right _ (by omega))
      simp only [signedUnits, decide_eq_true hi, decide_eq_true hj, if_true]
      omega
    · simp only [signedUnits, decide_eq_true hi, decide_eq_false hj, if_true, Bool.false_eq_true, if_false]
      omega
  · have hj : ¬j < 0 := by omega
    have hunits : roundUnits (i.natAbs * one) 1 ≤ roundUnits (j.natAbs * one) 1 :=
      roundUnits_mono (Nat.mul_le_mul_right _ (by omega))
    simp only [signedUnits, decide_eq_false hi, decide_eq_false hj, Bool.false_eq_true, if_false]
    omega

theorem ofInt_mono {i j : Int} (h : i ≤ j) : IsAtMost ((ofInt i).compare (ofInt j)) := by
  rw [compare_eq_compareRanks, ofInt_eq_ofUnits, ofInt_eq_ofUnits, rank?_ofUnits, rank?_ofUnits]
  exact isAtMost_some.mpr (place_mono (signedUnits_mono h))

/-- The doubles nearest to two integers are equal, or in the order of the integers. -/
theorem compare_ofInt (i j : Int) : (ofInt i).compare (ofInt j) = some .eq ∨
    (ofInt i).compare (ofInt j) = some (Ord.compare i j) := by
  rcases Int.lt_trichotomy i j with hlt | rfl | hgt
  · obtain ⟨x, hx, hle⟩ := ofInt_mono (Int.le_of_lt hlt)
    rw [hx, Int.compare_eq_lt.mpr hlt]
    rcases Ordering.isLE_iff_eq_lt_or_eq_eq.mp hle with rfl | rfl
    · exact .inr rfl
    · exact .inl rfl
  · refine .inl ?_
    rw [compare_eq_compareRanks, ofInt_eq_ofUnits, rank?_ofUnits]
    exact congrArg some Std.ReflCmp.compare_self
  · obtain ⟨x, hx, hle⟩ := ofInt_mono (Int.le_of_lt hgt)
    rw [compare_swap, hx, Int.compare_eq_gt.mpr hgt]
    rcases Ordering.isLE_iff_eq_lt_or_eq_eq.mp hle with rfl | rfl
    · exact .inr rfl
    · exact .inl rfl

/-- The double is the one nearest to either of two different integers. -/
structure Merges (d : Double) (i j : Int) : Prop where
  ne : i ≠ j
  left : (ofInt i).compare d = some .eq
  right : (ofInt j).compare d = some .eq

theorem compare_eq_swap {a b : Double} (h : a.compare b = some .eq) : b.compare a = some .eq := by
  rw [compare_swap, h]
  rfl

theorem signedUnits_natAbs (i : Int) : signedUnits (decide (i < 0)) (i.natAbs * one) = i * one := by
  by_cases hi : i < 0
  · rw [signedUnits, if_pos (decide_eq_true hi), Int.natCast_mul, ← Int.neg_mul, Int.ofNat_natAbs_of_nonpos (by omega),
      Int.neg_neg]
  · rw [signedUnits, if_neg (by simp [hi]), Int.natCast_mul, Int.natAbs_of_nonneg (by omega)]

/-- Only beyond 53 bits a double stands for several integers. -/
theorem Merges.exists_natAbs_lt {d : Double} {i j : Int} (h : d.Merges i j) :
    2 ^ 53 < i.natAbs ∨ 2 ^ 53 < j.natAbs := by
  rw [← Decidable.not_not (p := _ ∨ _), not_or, Nat.not_lt, Nat.not_lt]
  rintro ⟨hi, hj⟩
  have heq : (ofInt i).compare (ofInt j) = some .eq :=
    (composes (isAtMost_of_eq h.left) (isAtMost_of_eq (compare_eq_swap h.right))).eq_iff.mpr
      ⟨h.left, compare_eq_swap h.right⟩
  rw [ofInt_of_natAbs_le hi, ofInt_of_natAbs_le hj, compare, signedUnits_natAbs, signedUnits_natAbs] at heq
  have hone : (one : Int) ≠ 0 := by
    rw [one]
    exact Int.ofNat_ne_zero.mpr (Nat.ne_of_gt (Nat.two_pow_pos 1074))
  exact h.ne (Int.eq_of_mul_eq_mul_right hone (Int.compare_eq_eq.mp (Option.some.inj heq)))

end Double

end RowFilter
