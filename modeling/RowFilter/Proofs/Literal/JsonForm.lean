import RowFilter.Conversion.Backward
import RowFilter.Proofs.Calendar.MomentText
import RowFilter.Proofs.UuidText

/-! The JSON form of a literal is coerced into the literal again, by its own kind and, if it is an
    integer, as a double by the kind of doubles. The exceptions are doubles that are not finite, whose
    form is null, and moments outside of the years that are written without a sign. -/

namespace RowFilter

namespace Literal

/-- What the literal names exists: an integer of 64 bits, a day, a moment, an identifier of 128 bits. -/
def IsProper : Literal → Prop
  | integer i => JsonNumber.isSigned i = true
  | date d => d.isValid = true
  | dateTime m => m.IsProper
  | uuid u => u.isValid = true
  | float _ | text _ | boolean _ => True

/-- The JSON form of the literal can be read. -/
def isReadable : Literal → Bool
  | float d => d.isFinite
  | dateTime m => m.HasPlainYear
  | _ => true

/-- The literal where values of a kind are compared: among doubles an integer is the nearest double. -/
def asKind : Kind → Literal → Literal
  | .float, integer i => float (Double.ofInt i)
  | _, v => v

theorem asKind_eq_self {k : Kind} {v : Literal} (h : v.kind = k) : v.asKind k = v := by
  subst h
  cases v <;> rfl

theorem fits_of_kind {k : Kind} {v : Literal} (h : v.kind = k) : Criterion.fits k v = true := by
  simp [Criterion.fits, h]

/-- A literal that can be compared on a field has the kind of the field, or is an integer among doubles. -/
theorem fits_iff {k : Kind} {v : Literal} :
    Criterion.fits k v = true ↔ v.kind = k ∨ k = .float ∧ ∃ i, v = integer i := by
  simp only [Criterion.fits, Bool.or_eq_true, Bool.and_eq_true, beq_iff_eq]
  cases v <;> simp [kind]

/-- The order does not tell an integer among doubles from its double. -/
theorem compare_asKind {k : Kind} {v w : Literal} (hv : v.kind = k) (hw : Criterion.fits k w = true) :
    v.compare (w.asKind k) = v.compare w := by
  rcases fits_iff.mp hw with h | ⟨rfl, i, rfl⟩
  · rw [asKind_eq_self h]
  · cases v with
    | float d => rfl
    | _ => cases hv

/-! ### Reading the JSON form -/

theorem toJson_ne_array (v : Literal) (items : List Json) : v.toJson ≠ .array items := by
  cases v with
  | float d => simp only [toJson]; split <;> simp
  | _ => simp [toJson]

theorem toJson_ne_null {v : Literal} (h : v.isReadable = true) : v.toJson ≠ .null := by
  cases v with
  | float d =>
    rw [isReadable] at h
    simp [toJson, h]
  | _ => simp [toJson]

/-- The JSON form of a literal gives the literal back, as it is compared among values of the kind. -/
theorem coerce_toJson {k : Kind} {v : Literal} (hv : v.IsProper) (hf : Criterion.fits k v = true)
    (hr : v.isReadable = true) : k.coerce v.toJson = some (v.asKind k) := by
  rcases fits_iff.mp hf with rfl | ⟨rfl, i, rfl⟩
  · cases v with
    | integer i =>
      rw [IsProper] at hv
      simp [kind, toJson, Kind.coerce, JsonNumber.signed?, hv, asKind]
    | float d =>
      rw [isReadable] at hr
      simp [kind, toJson, hr, Kind.coerce, JsonNumber.toDouble, asKind]
    | text s => rfl
    | boolean b => rfl
    | date d =>
      have htrim : Text.trim d.chars = d.chars := Text.trim_eq_self_of_all fun _ => Date.isBlank_of_mem_chars
      simp [kind, toJson, Kind.coerce, Date.text, htrim, Date.ofChars?_chars hv, asKind]
    | dateTime m =>
      have hy : m.HasPlainYear := of_decide_eq_true hr
      have htrim : Text.trim m.chars = m.chars := Text.trim_eq_self_of_all fun _ => Moment.isBlank_of_mem_chars
      simp [kind, toJson, Kind.coerce, Moment.text, htrim, Moment.ofChars?_chars hv hy, asKind]
    | uuid u =>
      have htrim : Text.trim u.chars = u.chars := Text.trim_eq_self_of_all fun _ => Uuid.isBlank_of_mem_chars
      simp [kind, toJson, Kind.coerce, Uuid.text, htrim, Uuid.ofChars?_chars hv, asKind]
  · simp [toJson, Kind.coerce, JsonNumber.toDouble, asKind]

/-- A literal that cannot be read from its JSON form gives nothing. -/
theorem coerce_toJson_eq_none {k : Kind} {v : Literal} (hf : Criterion.fits k v = true)
    (hr : v.isReadable = false) : k.coerce v.toJson = none := by
  rcases fits_iff.mp hf with rfl | ⟨rfl, i, rfl⟩
  · cases v with
    | float d =>
      rw [isReadable] at hr
      simp [kind, toJson, hr, Kind.coerce]
    | dateTime m =>
      have hy : ¬m.HasPlainYear := of_decide_eq_false hr
      have htrim : Text.trim m.chars = m.chars := Text.trim_eq_self_of_all fun _ => Moment.isBlank_of_mem_chars
      simp [kind, toJson, Kind.coerce, Moment.text, htrim, Moment.ofChars?_chars_eq_none hy]
    | _ => cases hr
  · cases hr

/-! ### Literals that are coerced -/

/-- What is coerced has the kind it was coerced to, and names something that exists. -/
theorem of_coerce {k : Kind} {j : Json} {v : Literal} (h : k.coerce j = some v) : v.kind = k ∧ v.IsProper := by
  unfold Kind.coerce at h
  split at h
  · obtain ⟨s, -, rfl⟩ := Option.map_eq_some_iff.mp h
    exact ⟨rfl, trivial⟩
  · next n =>
    obtain ⟨i, hi, rfl⟩ := Option.map_eq_some_iff.mp h
    refine ⟨rfl, ?_⟩
    unfold JsonNumber.signed? at hi
    split at hi
    · split at hi
      · next hs =>
        cases hi
        exact hs
      · cases hi
    · cases hi
  · obtain ⟨i, hi, rfl⟩ := Option.map_eq_some_iff.mp h
    exact ⟨rfl, (Option.filter_eq_some_iff.mp hi).2⟩
  · cases h
    exact ⟨rfl, trivial⟩
  · obtain ⟨d, -, rfl⟩ := Option.map_eq_some_iff.mp h
    exact ⟨rfl, trivial⟩
  · cases h
    exact ⟨rfl, trivial⟩
  · obtain ⟨b, -, rfl⟩ := Option.map_eq_some_iff.mp h
    exact ⟨rfl, trivial⟩
  · obtain ⟨d, hd, rfl⟩ := Option.map_eq_some_iff.mp h
    exact ⟨rfl, Date.isValid_of_ofChars? hd⟩
  · obtain ⟨m, hm, rfl⟩ := Option.map_eq_some_iff.mp h
    exact ⟨rfl, Moment.isProper_of_ofChars? hm⟩
  · obtain ⟨u, hu, rfl⟩ := Option.map_eq_some_iff.mp h
    exact ⟨rfl, Uuid.isValid_of_ofChars? hu⟩
  · cases h

/-- A moment is coerced from a text that writes it, blanks around it aside. -/
theorem exists_text_of_coerce {k : Kind} {j : Json} {m : Moment} (h : k.coerce j = some (dateTime m)) :
    ∃ s, j = .text s ∧ Moment.ofChars? (Text.trim s.toList) = some m := by
  obtain ⟨rfl, -⟩ := of_coerce h
  cases j with
  | text s =>
    obtain ⟨m', hm, hsame⟩ := Option.map_eq_some_iff.mp h
    cases hsame
    exact ⟨s, rfl, hm⟩
  | _ => cases h

/-- A double that is coerced is finite if that of a number is. -/
theorem isFinite_of_coerce {k : Kind} {j : Json} {d : Double} (h : k.coerce j = some (float d))
    (hj : ∀ n, j = .number n → n.toDouble.isFinite = true) : d.isFinite = true := by
  unfold Kind.coerce at h
  split at h
  · obtain ⟨s, -, h⟩ := Option.map_eq_some_iff.mp h
    cases h
  · obtain ⟨i, -, h⟩ := Option.map_eq_some_iff.mp h
    cases h
  · obtain ⟨i, -, h⟩ := Option.map_eq_some_iff.mp h
    cases h
  · next n =>
    cases h
    exact hj n rfl
  · obtain ⟨e, he, h⟩ := Option.map_eq_some_iff.mp h
    cases h
    exact (Option.filter_eq_some_iff.mp he).2
  · cases h
  · obtain ⟨b, -, h⟩ := Option.map_eq_some_iff.mp h
    cases h
  · obtain ⟨d, -, h⟩ := Option.map_eq_some_iff.mp h
    cases h
  · obtain ⟨m, -, h⟩ := Option.map_eq_some_iff.mp h
    cases h
  · obtain ⟨u, -, h⟩ := Option.map_eq_some_iff.mp h
    cases h
  · cases h

end Literal

end RowFilter
