import RowFilter.Literal.Basic
import RowFilter.Proofs.Number.Order

/-! How far the comparison of literals is an order. Among literals of one kind it is, and among integers and doubles
    it is as long as no double stands for two different integers: a double is compared with an integer as with the
    double nearest to it, but integers are compared as they are. -/

namespace RowFilter

/-! ### Dates and moments -/

theorem Date.compare_eq_compareLex :
    Date.compare = compareLex (compareOn Date.year) (compareLex (compareOn Date.month) (compareOn Date.day)) :=
  rfl

instance : Std.TransCmp Date.compare :=
  Date.compare_eq_compareLex ▸ inferInstance

theorem Moment.compare_eq_compareLex : Moment.compare =
    compareLex (fun a b => a.date.compare b.date) (compareLex (compareOn Moment.second) (compareOn Moment.nanos)) :=
  rfl

instance : Std.TransCmp fun a b : Moment => a.date.compare b.date where
  eq_swap {a b} := show a.date.compare b.date = (b.date.compare a.date).swap from Std.OrientedCmp.eq_swap
  isLE_trans {a b c} hab hbc := show (a.date.compare c.date).isLE = true from
    Std.TransCmp.isLE_trans (show (a.date.compare b.date).isLE = true from hab) hbc

instance : Std.TransCmp Moment.compare :=
  Moment.compare_eq_compareLex ▸ inferInstance

/-! ### Literals -/

namespace Literal

theorem compare_swap (a b : Literal) : b.compare a = (a.compare b).map Ordering.swap := by
  cases a <;> cases b
  case float.float d e => exact Double.compare_swap d e
  case float.integer d i => exact Double.compare_swap d (.ofInt i)
  case integer.float i d => exact Double.compare_swap (.ofInt i) d
  all_goals first | exact congrArg some Std.OrientedCmp.eq_swap | rfl

/-- One of three literals is a double that stands for the two others, which are different integers. -/
inductive Collide : Literal → Literal → Literal → Prop
  | first {i j : Int} {d : Double} : d.Merges i j → Collide (.float d) (.integer i) (.integer j)
  | middle {i j : Int} {d : Double} : d.Merges i j → Collide (.integer i) (.float d) (.integer j)
  | last {i j : Int} {d : Double} : d.Merges i j → Collide (.integer i) (.integer j) (.float d)

section
variable {i j : Int} {d : Double}

theorem composes_integers_float (hij : IsAtMost (some (Ord.compare i j)))
    (hj : IsAtMost ((Double.ofInt j).compare d)) :
    Composes (some (Ord.compare i j)) ((Double.ofInt j).compare d) ((Double.ofInt i).compare d) ↔ ¬d.Merges i j := by
  have hle : i ≤ j := Std.isLE_compare.mp (isAtMost_some.mp hij)
  have hrounded := Double.composes (Double.ofInt_mono hle) hj
  constructor
  · intro h hmerges
    have heq : some (Ord.compare i j) = some .eq := (h.eq_iff.mp hmerges.left).1
    exact hmerges.ne (Int.compare_eq_eq.mp (Option.some.inj heq))
  · intro hmerges
    refine ⟨hrounded.isAtMost, ⟨fun heq => ?_, ?_⟩⟩
    · have hjd := (hrounded.eq_iff.mp heq).2
      refine ⟨congrArg some (Int.compare_eq_eq.mpr ?_), hjd⟩
      exact Decidable.byContradiction fun hne => hmerges ⟨hne, heq, hjd⟩
    · rintro ⟨heq, hjd⟩
      rwa [Int.compare_eq_eq.mp (Option.some.inj heq)]

theorem composes_float_integers (hi : IsAtMost (d.compare (Double.ofInt i)))
    (hij : IsAtMost (some (Ord.compare i j))) :
    Composes (d.compare (Double.ofInt i)) (some (Ord.compare i j)) (d.compare (Double.ofInt j)) ↔ ¬d.Merges i j := by
  have hle : i ≤ j := Std.isLE_compare.mp (isAtMost_some.mp hij)
  have hrounded := Double.composes hi (Double.ofInt_mono hle)
  constructor
  · intro h hmerges
    have heq : some (Ord.compare i j) = some .eq := (h.eq_iff.mp (Double.compare_eq_swap hmerges.right)).2
    exact hmerges.ne (Int.compare_eq_eq.mp (Option.some.inj heq))
  · intro hmerges
    refine ⟨hrounded.isAtMost, ⟨fun heq => ?_, ?_⟩⟩
    · have hdi := (hrounded.eq_iff.mp heq).1
      refine ⟨hdi, congrArg some (Int.compare_eq_eq.mpr ?_)⟩
      exact Decidable.byContradiction fun hne =>
        hmerges ⟨hne, Double.compare_eq_swap hdi, Double.compare_eq_swap heq⟩
    · rintro ⟨hdi, heq⟩
      rwa [← Int.compare_eq_eq.mp (Option.some.inj heq)]

theorem composes_around_float (hi : IsAtMost ((Double.ofInt i).compare d))
    (hj : IsAtMost (d.compare (Double.ofInt j))) :
    Composes ((Double.ofInt i).compare d) (d.compare (Double.ofInt j)) (some (Ord.compare i j)) ↔ ¬d.Merges i j := by
  have hrounded := Double.composes hi hj
  constructor
  · intro h hmerges
    have heq := h.eq_iff.mpr ⟨hmerges.left, Double.compare_eq_swap hmerges.right⟩
    exact hmerges.ne (Int.compare_eq_eq.mp (Option.some.inj heq))
  · intro hmerges
    rcases Double.compare_ofInt i j with heq | horder
    · -- Rounding may hide a difference of the integers only if the double stands for both.
      obtain ⟨hid, hdj⟩ := hrounded.eq_iff.mp heq
      have hij : i = j :=
        Decidable.byContradiction fun hne => hmerges ⟨hne, hid, Double.compare_eq_swap hdj⟩
      have hwhole : some (Ord.compare i j) = some .eq := congrArg some (Int.compare_eq_eq.mpr hij)
      exact ⟨isAtMost_of_eq hwhole, iff_of_true hwhole ⟨hid, hdj⟩⟩
    · rwa [horder] at hrounded

end

section
variable {a b c : Literal}

/-- Three literals in a row are in order, but for a double among them that stands for the two others. -/
theorem composes_iff (hab : IsAtMost (a.compare b)) (hbc : IsAtMost (b.compare c)) :
    Composes (a.compare b) (b.compare c) (a.compare c) ↔ ¬Collide a b c := by
  cases a with
  | integer i =>
    cases b with
    | integer j =>
      cases c with
      | integer k => exact iff_of_true (composes_of_transCmp hab hbc) nofun
      | float e =>
        simp only [compare] at hab hbc ⊢
        refine (composes_integers_float hab hbc).trans (not_congr ⟨.last, ?_⟩)
        rintro ⟨⟩
        assumption
      | _ => exact absurd hbc not_isAtMost_none
    | float d =>
      cases c with
      | integer k =>
        simp only [compare] at hab hbc ⊢
        refine (composes_around_float hab hbc).trans (not_congr ⟨.middle, ?_⟩)
        rintro ⟨⟩
        assumption
      | float e =>
        simp only [compare] at hab hbc ⊢
        exact iff_of_true (Double.composes hab hbc) nofun
      | _ => exact absurd hbc not_isAtMost_none
    | _ => exact absurd hab not_isAtMost_none
  | float d =>
    cases b with
    | integer j =>
      cases c with
      | integer k =>
        simp only [compare] at hab hbc ⊢
        refine (composes_float_integers hab hbc).trans (not_congr ⟨.first, ?_⟩)
        rintro ⟨⟩
        assumption
      | float e =>
        simp only [compare] at hab hbc ⊢
        exact iff_of_true (Double.composes hab hbc) nofun
      | _ => exact absurd hbc not_isAtMost_none
    | float e =>
      cases c with
      | integer k =>
        simp only [compare] at hab hbc ⊢
        exact iff_of_true (Double.composes hab hbc) nofun
      | float f =>
        simp only [compare] at hab hbc ⊢
        exact iff_of_true (Double.composes hab hbc) nofun
      | _ => exact absurd hbc not_isAtMost_none
    | _ => exact absurd hab not_isAtMost_none
  | _ =>
    cases b <;> try exact absurd hab not_isAtMost_none
    cases c <;> try exact absurd hbc not_isAtMost_none
    exact iff_of_true (composes_of_transCmp hab hbc) nofun

/-- Integers of 53 bits and their doubles never get in the way of each other. -/
theorem Collide.exists_natAbs_lt (h : Collide a b c) :
    ∃ i : Int, (a = .integer i ∨ b = .integer i ∨ c = .integer i) ∧ 2 ^ 53 < i.natAbs := by
  cases h with
  | first h => exact h.exists_natAbs_lt.elim (fun hi => ⟨_, .inr (.inl rfl), hi⟩) fun hj => ⟨_, .inr (.inr rfl), hj⟩
  | middle h => exact h.exists_natAbs_lt.elim (fun hi => ⟨_, .inl rfl, hi⟩) fun hj => ⟨_, .inr (.inr rfl), hj⟩
  | last h => exact h.exists_natAbs_lt.elim (fun hi => ⟨_, .inl rfl, hi⟩) fun hj => ⟨_, .inr (.inl rfl), hj⟩

end

/-- Comparing the other way round gives the reverse, and literals in a row are in order exactly if none of them is a
    double that stands for two others that are different integers, one of them beyond 53 bits. -/
theorem compare_order (a b c : Literal) :
    b.compare a = (a.compare b).map Ordering.swap ∧
    (IsAtMost (a.compare b) → IsAtMost (b.compare c) →
      (Composes (a.compare b) (b.compare c) (a.compare c) ↔ ¬Collide a b c)) ∧
    (Collide a b c → ∃ i : Int, (a = .integer i ∨ b = .integer i ∨ c = .integer i) ∧ 2 ^ 53 < i.natAbs) :=
  ⟨compare_swap a b, composes_iff, Collide.exists_natAbs_lt⟩

/-- Two and a half is in order between two and three, while the double `2 ^ 53` stands for two integers. -/
theorem compare_order_half :
    Composes ((integer 2).compare (float (.finite false (5 * 2 ^ 1073))))
      ((float (.finite false (5 * 2 ^ 1073))).compare (integer 3)) ((integer 2).compare (integer 3)) ∧
    ¬Composes ((float (.finite false (2 ^ 1127))).compare (integer (2 ^ 53)))
      ((integer (2 ^ 53)).compare (integer (2 ^ 53 + 1)))
      ((float (.finite false (2 ^ 1127))).compare (integer (2 ^ 53 + 1))) := by
  constructor
  · refine ((compare_order _ _ _).2.1 ⟨.lt, by decide +kernel, rfl⟩ ⟨.lt, by decide +kernel, rfl⟩).mpr fun h => ?_
    obtain ⟨i, hi, hlt⟩ := (compare_order _ _ _).2.2 h
    simp only [integer.injEq, reduceCtorEq, false_or] at hi
    omega
  · intro h
    refine ((compare_order _ _ _).2.1 ⟨.eq, by decide +kernel, rfl⟩ ⟨.lt, by decide +kernel, rfl⟩).mp h ?_
    exact .first ⟨by decide, by decide +kernel, by decide +kernel⟩

/-- The double `2 ^ 53` is equal to that integer, which is less than the next one, but also equal to the next one. -/
theorem compare_not_order : ¬∀ a b c : Literal, IsAtMost (a.compare b) → IsAtMost (b.compare c) →
    Composes (a.compare b) (b.compare c) (a.compare c) := by
  intro h
  have hcomposes := h (float (.finite false (2 ^ 1127))) (integer (2 ^ 53)) (integer (2 ^ 53 + 1))
    ⟨.eq, by decide +kernel, rfl⟩ ⟨.lt, by decide +kernel, rfl⟩
  have hnext : (integer (2 ^ 53)).compare (integer (2 ^ 53 + 1)) = some .eq :=
    (hcomposes.eq_iff.mp (by decide +kernel)).2
  exact absurd hnext (by decide +kernel)

end Literal

end RowFilter
