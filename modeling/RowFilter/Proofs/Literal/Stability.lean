import RowFilter.Proofs.Conversion.RoundTrip

/-! Coercion is stable: the JSON form of a coerced literal is coerced to the same literal. The exceptions are moments
    that their offset moves out of the years 0 to 9999, in which a local time is written: these are written with a
    signed year, which no moment is read from. -/

namespace RowFilter

namespace Literal

/-- The literal is a moment on the day before the years 0 to 9999 or on the day after them. -/
def isPastBorder : Literal → Bool
  | dateTime m => m.date == ⟨-1, 12, 31⟩ || m.date == ⟨10000, 1, 1⟩
  | _ => false

/-- Of the literals that are coerced, those past the borders are the ones whose year is written with a sign. -/
theorem isPastBorder_of_coerce {k : Kind} {j : Json} {v : Literal} (h : k.coerce j = some v) :
    v.isPastBorder = !v.hasPlainYear := by
  cases v with
  | dateTime m =>
    rw [isPastBorder, hasPlainYear, Bool.eq_iff_iff, Bool.or_eq_true, beq_iff_eq, beq_iff_eq, Bool.not_eq_true',
      decide_eq_false_iff_not]
    constructor
    · unfold Moment.HasPlainYear
      rintro (hm | hm) <;> rw [hm] <;> decide
    · obtain ⟨s, -, hs⟩ := exists_text_of_coerce h
      exact Moment.date_of_not_hasPlainYear hs
  | _ => rfl

/-- A coerced literal can be read from its JSON form unless it is past a border. -/
theorem isReadable_of_coerce {k : Kind} {j : Json} {v : Literal} (hj : j.isFiniteNumber = true)
    (h : k.coerce j = some v) : v.isReadable = !v.isPastBorder := by
  rw [isPastBorder_of_coerce h, Bool.not_not]
  cases v with
  | float d => exact isFinite_of_coerced h hj
  | _ => rfl

/-- A coerced literal has the kind it was coerced to, and its JSON form is coerced to it again. Only a moment past a
    border cannot be coerced again. -/
theorem coerce_toJson_of_coerce {k : Kind} {j : Json} {v : Literal} (hj : j.isFiniteNumber = true)
    (h : k.coerce j = some v) :
    v.kind = k ∧ k.coerce v.toJson = if v.isPastBorder then none else some v := by
  obtain ⟨hkind, hproper⟩ := of_coerce h
  have hreadable := isReadable_of_coerce hj h
  refine ⟨hkind, ?_⟩
  cases hborder : v.isPastBorder with
  | true =>
    rw [hborder] at hreadable
    exact coerce_toJson_eq_none (fits_of_kind hkind) hreadable
  | false =>
    rw [hborder] at hreadable
    rw [coerce_toJson hproper (fits_of_kind hkind) hreadable, asKind_eq_self hkind]
    rfl

/-- A leap second and its offset, an hour before the last year of four digits ends. -/
theorem coerce_toJson_of_coerce_leap :
    let j : Json := .text " 9999-12-31t23:59:60.50+01:00 "
    let v : Literal := .dateTime ⟨⟨9999, 12, 31⟩, 82799, 1500000000⟩
    j.isFiniteNumber = true ∧ Kind.dateTime.coerce j = some v ∧ v.kind = .dateTime ∧
      Kind.dateTime.coerce v.toJson = some v := by
  intro j v
  have hv : Kind.dateTime.coerce j = some v := by rfl
  obtain ⟨hkind, hagain⟩ := coerce_toJson_of_coerce (j := j) rfl hv
  exact ⟨rfl, hv, hkind, hagain⟩

/-- Not every coerced literal is coerced again: the first moment of the year 0 in a place ahead of universal time is
    in the year before, which is written with a sign. -/
theorem coerce_toJson_not_stable :
    ¬∀ (k : Kind) (j : Json) (v : Literal), j.isFiniteNumber = true → k.coerce j = some v →
      v.kind = k ∧ k.coerce v.toJson = some v := by
  intro h
  obtain ⟨-, hagain⟩ := h .dateTime (.text "0000-01-01T00:00:00+01:00") (.dateTime ⟨⟨-1, 12, 31⟩, 82800, 0⟩) rfl rfl
  cases hagain

end Literal

end RowFilter
