import RowFilter.Proofs.Filter.Text
import RowFilter.Proofs.Json.Canonical
import RowFilter.Proofs.Json.Indentation
import RowFilter.Proofs.Query.Form

/-! Documents as lines. The text of a document on one line has no control characters, so lines of documents are
    told apart by their line breaks; and the text of a value, on one line or over several, is read as that value. -/

namespace RowFilter

/-- The character is no control character. -/
def IsPrintable (c : Char) : Prop :=
  0x20 ≤ c.toNat

instance (c : Char) : Decidable (IsPrintable c) :=
  inferInstanceAs (Decidable (_ ≤ _))

theorem isPrintable_of_all {cs : List Char} (h : (cs.all fun c => decide (IsPrintable c)) = true) :
    ∀ c ∈ cs, IsPrintable c := fun c hc => of_decide_eq_true (List.all_eq_true.mp h c hc)

theorem isPrintable_of_isDigit {c : Char} (h : c.isDigit = true) : IsPrintable c :=
  Nat.le_trans (by decide) (Decimal.toNat_of_isDigit h).1

namespace DoubleNotation

variable {c : Char} {ds : List Char}

theorem isPrintable_of_mem_digits {n : Nat} (h : c ∈ Decimal.digits n) : IsPrintable c :=
  isPrintable_of_isDigit (Decimal.isDigit_of_mem_digits h)

theorem isPrintable_of_mem_exponentText (e : Int) : ∀ c ∈ exponentText e, IsPrintable c := by
  refine List.forall_mem_cons.mpr ⟨by decide, List.forall_mem_cons.mpr ⟨?_, fun _ => isPrintable_of_mem_digits⟩⟩
  split <;> decide

theorem isPrintable_of_mem_pointed (hds : ∀ c ∈ ds, IsPrintable c) (whole : Nat) :
    ∀ c ∈ pointed whole ds, IsPrintable c := by
  unfold pointed
  split
  · exact hds
  · refine List.forall_mem_append.mpr ⟨fun c hc => hds c (List.mem_of_mem_take hc), ?_⟩
    exact List.forall_mem_cons.mpr ⟨by decide, fun c hc => hds c (List.mem_of_mem_drop hc)⟩

theorem isPrintable_of_mem_zeros (n : Nat) : ∀ c ∈ List.replicate n '0', IsPrintable c := by
  intro c hc
  rw [List.eq_of_mem_replicate hc]
  decide

theorem isPrintable_of_mem_positionalText (f : DoubleNotation) (top : Int) (hds : ∀ c ∈ ds, IsPrintable c) :
    ∀ c ∈ f.positionalText top ds, IsPrintable c := by
  unfold positionalText
  split
  · refine List.forall_mem_append.mpr ⟨?_, hds⟩
    exact List.forall_mem_cons.mpr ⟨by decide, List.forall_mem_cons.mpr ⟨by decide, isPrintable_of_mem_zeros _⟩⟩
  · have hfilled : ∀ c ∈ ds ++ List.replicate (top.toNat + 1 - ds.length) '0', IsPrintable c :=
      List.forall_mem_append.mpr ⟨hds, isPrintable_of_mem_zeros _⟩
    dsimp only
    split
    · refine List.forall_mem_append.mpr ⟨hfilled, ?_⟩
      split <;> exact isPrintable_of_all rfl
    · exact isPrintable_of_mem_pointed hfilled _

theorem isPrintable_of_mem_text (f : DoubleNotation) (d : Double) : ∀ c ∈ f.text d, IsPrintable c := by
  cases d with
  | nan => exact isPrintable_of_all rfl
  | infinite negative =>
    refine List.forall_mem_append.mpr ⟨by cases negative <;> exact isPrintable_of_all rfl, isPrintable_of_all rfl⟩
  | finite negative units =>
    refine List.forall_mem_append.mpr ⟨by cases negative <;> exact isPrintable_of_all rfl, ?_⟩
    unfold unsigned
    dsimp only
    split
    · exact isPrintable_of_mem_positionalText f _ fun _ => isPrintable_of_mem_digits
    · refine List.forall_mem_append.mpr ⟨?_, isPrintable_of_mem_exponentText _⟩
      exact isPrintable_of_mem_pointed (fun _ => isPrintable_of_mem_digits) 1

end DoubleNotation

namespace Json

/-! ### Lines -/

theorem isPrintable_of_shortEscape? {e c : Char} (h : shortEscape? e = some c) : IsPrintable e := by
  have hletter : e ∈ ['"', '\\', '/', 'n', 'r', 't', 'b', 'f'] := by
    refine Classical.byContradiction fun hnot => ?_
    simp only [List.mem_cons, List.not_mem_nil, or_false, not_or] at hnot
    simp [shortEscape?, hnot] at h
  have hprintable : ∀ d ∈ ['"', '\\', '/', 'n', 'r', 't', 'b', 'f'], IsPrintable d := isPrintable_of_all rfl
  exact hprintable e hletter

theorem isPrintable_of_mem_escapedChar (c : Char) : ∀ d ∈ escapedChar c, IsPrintable d := by
  have h := escapeForm c
  generalize escapedChar c = cs at h ⊢
  cases h with
  | short e he h =>
    exact List.forall_mem_cons.mpr ⟨by decide, List.forall_mem_singleton.mpr (isPrintable_of_shortEscape? h)⟩
  | code a b ha hb h hc =>
    have hdigits : ∀ d ∈ [a, b], IsPrintable d := by
      refine List.forall_mem_cons.mpr ⟨Nat.le_trans (by decide) ha.1, List.forall_mem_singleton.mpr ?_⟩
      exact Nat.le_trans (by decide) hb.1
    have hmark : ∀ d ∈ ['\\', 'u', '0', '0'], IsPrintable d := isPrintable_of_all rfl
    exact List.forall_mem_append.mpr ⟨hmark, hdigits⟩
  | plain hc hquote hescape => exact List.forall_mem_singleton.mpr hc

theorem isPrintable_of_mem_quotedText (s : String) : ∀ c ∈ quotedText s, IsPrintable c := by
  refine List.forall_mem_append.mpr ⟨List.forall_mem_cons.mpr ⟨by decide, fun c hc => ?_⟩, isPrintable_of_all rfl⟩
  obtain ⟨d, -, hd⟩ := List.mem_flatMap.mp hc
  exact isPrintable_of_mem_escapedChar d c hd

theorem isPrintable_of_mem_numberText (n : JsonNumber) : ∀ c ∈ numberText n, IsPrintable c := by
  cases n with
  | integer i =>
    rw [numberText, Decimal.intText]
    split
    · exact List.forall_mem_cons.mpr ⟨by decide, fun _ => DoubleNotation.isPrintable_of_mem_digits⟩
    · exact fun _ => DoubleNotation.isPrintable_of_mem_digits
  | double d =>
    rw [numberText]
    split
    · exact DoubleNotation.isPrintable_of_mem_text _ d
    · exact isPrintable_of_all rfl

mutual
/-- The text of a document on one line has no control characters. -/
theorem isPrintable_of_mem_compactChars (j : Json) : ∀ c ∈ j.compactChars, IsPrintable c := by
  match j with
  | .null => exact isPrintable_of_all rfl
  | .bool true => exact isPrintable_of_all rfl
  | .bool false => exact isPrintable_of_all rfl
  | .number n => exact isPrintable_of_mem_numberText n
  | .text s => exact isPrintable_of_mem_quotedText s
  | .array items =>
    refine List.forall_mem_append.mpr ⟨List.forall_mem_cons.mpr ⟨by decide, ?_⟩, isPrintable_of_all rfl⟩
    exact isPrintable_of_mem_compactItems items
  | .object members =>
    refine List.forall_mem_append.mpr ⟨List.forall_mem_cons.mpr ⟨by decide, ?_⟩, isPrintable_of_all rfl⟩
    exact isPrintable_of_mem_compactMembers members
termination_by structural j

theorem isPrintable_of_mem_compactItems (items : List Json) : ∀ c ∈ compactItems items, IsPrintable c := by
  match items with
  | [] => exact nofun
  | j :: rest =>
    refine List.forall_mem_append.mpr ⟨isPrintable_of_mem_compactChars j, ?_⟩
    split
    · exact nofun
    · exact List.forall_mem_cons.mpr ⟨by decide, isPrintable_of_mem_compactItems rest⟩
termination_by structural items

theorem isPrintable_of_mem_compactMembers (members : List (String × Json)) :
    ∀ c ∈ compactMembers members, IsPrintable c := by
  match members with
  | [] => exact nofun
  | m :: rest =>
    refine List.forall_mem_append.mpr ⟨isPrintable_of_mem_compactMember m, ?_⟩
    split
    · exact nofun
    · exact List.forall_mem_cons.mpr ⟨by decide, isPrintable_of_mem_compactMembers rest⟩
termination_by structural members

theorem isPrintable_of_mem_compactMember (m : String × Json) : ∀ c ∈ compactMember m, IsPrintable c := by
  match m with
  | (k, j) =>
    refine List.forall_mem_append.mpr ⟨isPrintable_of_mem_quotedText k, ?_⟩
    exact List.forall_mem_cons.mpr ⟨by decide, isPrintable_of_mem_compactChars j⟩
termination_by structural m
end

theorem newline_not_mem_compactChars (j : Json) : '\n' ∉ j.compactChars := fun h =>
  absurd (isPrintable_of_mem_compactChars j _ h) (by decide)

/-- Documents on lines of their own are told apart by the line breaks, and nothing stands behind the last one. -/
theorem split_lines (js : List Json) :
    Text.split '\n' (js.flatMap fun j => j.compactChars ++ ['\n']) = js.map compactChars ++ [[]] := by
  induction js with
  | nil => rfl
  | cons j js ih =>
    rw [List.flatMap_cons, List.append_assoc, List.singleton_append,
      Text.split_append (newline_not_mem_compactChars j), ih, List.map_cons, List.cons_append]

/-! ### Reading values -/

variable {j : Json}

theorem isKept_array {items : List Json} : (Json.array items).IsKept ↔ ∀ j ∈ items, j.IsKept := by
  constructor
  · rintro ⟨hcanonical, hnumbers⟩ j hj
    exact ⟨isCanonical_array.mp hcanonical j hj, allNumbers_array.mp hnumbers j hj⟩
  · intro h
    exact ⟨isCanonical_array.mpr fun j hj => (h j hj).canonical, allNumbers_array.mpr fun j hj => (h j hj).numbers⟩

/-- A value is read from its text on one line. -/
theorem parse_compactChars (hj : j.IsKept) (hdepth : j.depth ≤ maxDepth) :
    parse (String.ofList j.compactChars) = some j := by
  rw [parse, read, String.toList_ofList, readChars_compactChars hj.isExact, if_pos hdepth, Option.map_some,
    hj.canonical]

/-- Values are read from their lines. -/
theorem forall₂_parse_compactChars {js : List Json} (h : ∀ j ∈ js, j.IsKept ∧ j.depth ≤ maxDepth) :
    List.Forall₂ (fun line j => parse (String.ofList line) = some j) (js.map compactChars) js :=
  List.forall₂_map_left_iff.mpr (List.forall₂_same.mpr fun j hj => parse_compactChars (h j hj).1 (h j hj).2)

/-- A document is read from its text over several lines and a line break. -/
theorem parse_pretty (hj : j.AllNumbers JsonNumber.IsKept) (hdepth : j.depth ≤ maxDepth) :
    parse (j.pretty ++ "\n") = some j.canonical := by
  have hread : value maxDepth (prettyChars 0 j ++ ['\n']) = some (j, ['\n']) := by
    rw [value_prettyChars hj 0 maxDepth (notLed_cons.mpr rfl), if_pos hdepth]
  have hchars : (j.pretty ++ "\n").toList = prettyChars 0 j ++ ['\n'] := by
    rw [String.toList_append, pretty, String.toList_ofList]
    rfl
  rw [parse, read, hchars, readChars, whole, hread]
  rfl

end Json

end RowFilter
