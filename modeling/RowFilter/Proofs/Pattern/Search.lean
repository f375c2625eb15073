import RowFilter.Proofs.Conversion.Meaning
import RowFilter.Proofs.Pattern.Matching

/-! Looking for a text. The pattern of a text at some place of another one means that place literally, whatever
    the characters of the text mean in patterns, and so does the criterion that a condition with a text operator
    becomes. -/

namespace RowFilter

/-- The first text stands at the place in the second one. -/
def Anchor.Finds : Anchor → List Char → List Char → Prop
  | anywhere, t, s => t <:+: s
  | front, t, s => t <+: s
  | back, t, s => t <:+ s

namespace Pattern

/-! ### Literal tokens -/

theorem cuts_literals_append_iff {cs s : List Char} {ts : List Token} :
    Cuts (cs.map .literal ++ ts) s ↔ ∃ rest, Cuts ts rest ∧ s = cs ++ rest := by
  induction cs generalizing s with
  | nil =>
    constructor
    · intro h
      exact ⟨s, h, rfl⟩
    · rintro ⟨_, h, rfl⟩
      exact h
  | cons c cs ih =>
    rw [List.map_cons, List.cons_append, cuts_literal_iff]
    constructor
    · rintro ⟨_, h, rfl⟩
      obtain ⟨rest, hrest, rfl⟩ := ih.mp h
      exact ⟨rest, hrest, rfl⟩
    · rintro ⟨rest, hrest, rfl⟩
      exact ⟨cs ++ rest, ih.mpr ⟨rest, hrest, rfl⟩, rfl⟩

theorem cuts_literals_iff {cs s : List Char} : Cuts (cs.map .literal) s ↔ s = cs := by
  rw [← List.append_nil (cs.map Token.literal), cuts_literals_append_iff]
  simp only [cuts_nil_iff, exists_eq_left, List.append_nil]

theorem cuts_anyRun (s : List Char) : Cuts [.anyRun] s :=
  cuts_anyRun_iff.mpr ⟨s, [], cuts_nil_iff.mpr rfl, (List.append_nil s).symm⟩

/-- A text framed by runs is cut out of the texts that hold it at the place left free. -/
theorem cuts_framed_iff {a : Anchor} {cs s : List Char} : Cuts (framed a cs) s ↔ a.Finds cs s := by
  cases a with
  | anywhere =>
    rw [framed, cuts_anyRun_iff]
    constructor
    · rintro ⟨run, _, hrest, rfl⟩
      obtain ⟨rest, -, rfl⟩ := cuts_literals_append_iff.mp hrest
      exact ⟨run, rest, List.append_assoc run cs rest⟩
    · rintro ⟨run, rest, rfl⟩
      have hrest : Cuts (cs.map .literal ++ [.anyRun]) (cs ++ rest) :=
        cuts_literals_append_iff.mpr ⟨rest, cuts_anyRun rest, rfl⟩
      exact ⟨run, cs ++ rest, hrest, List.append_assoc run cs rest⟩
  | front =>
    rw [framed, cuts_literals_append_iff]
    constructor
    · rintro ⟨rest, -, rfl⟩
      exact ⟨rest, rfl⟩
    · rintro ⟨rest, rfl⟩
      exact ⟨rest, cuts_anyRun rest, rfl⟩
  | back =>
    rw [framed, cuts_anyRun_iff]
    simp only [cuts_literals_iff]
    constructor
    · rintro ⟨run, _, rfl, rfl⟩
      exact ⟨run, rfl⟩
    · rintro ⟨run, rfl⟩
      exact ⟨run, cs, rfl, rfl⟩

/-! ### Patterns of a text -/

theorem matchText_anchored {a : Anchor} {t : String} (h : (prepare? (anchored a t)).isSome = true) (s : String) :
    matchText (anchored a t) s = true ↔ a.Finds t.toList s.toList := by
  rw [matchText_iff h, tokens_anchored, cuts_framed_iff]

theorem matchText_escape {t : String} (h : (prepare? (String.ofList (escape t.toList))).isSome = true)
    (s : String) :
    matchText (String.ofList (escape t.toList)) s = true ↔ s = t := by
  rw [matchText_iff h, String.toList_ofList, tokens_escape, cuts_literals_iff, String.toList_inj]

end Pattern

/-! ### Conditions with text operators -/

open Success Conversion

theorem Condition.criterion_pattern (field : String) (a : Anchor) (t : String) :
    (⟨field, .pattern a, .text t⟩ : Condition).criterion .text = .ok ⟨field, .text, .like (Pattern.anchored a t)⟩ :=
  criterion_eq_ok_iff.mpr ⟨rfl, rfl, [.text t], _, rfl, rfl, rfl⟩

theorem Schema.compile_pattern {s : Schema} {entity field : String} (h : s.resolve entity field = .ok .text)
    (a : Anchor) (t : String) : s.compile entity (.simple [⟨field, .pattern a, .text t⟩]) =
      .ok (.leaf ⟨field, .text, .like (Pattern.anchored a t)⟩) := by
  have hleaf : ofCondition (s.kindOf entity) ⟨field, .pattern a, .text t⟩ =
      .ok (.leaf ⟨field, .text, .like (Pattern.anchored a t)⟩) := by
    rw [ofCondition, kindOf, h]
    simp only [ok_bind, Condition.criterion_pattern]
    rfl
  rw [compile, ofFilter, ofConditions, hleaf]
  rfl

/-- A pattern on a field that holds a text is about that text. -/
theorem Predicate.holds_like {row : Json} {field cell : String}
    (h : row.follow (Text.segments field) = some (.text cell)) (pattern : String) :
    (leaf ⟨field, .text, .like pattern⟩).holds row = Pattern.matchText pattern cell := by
  have hcell : row.cell? field = some (.text cell) := by
    rw [Json.cell?, h]
    rfl
  have htruth : Criterion.truth Pattern.matchText ⟨field, .text, .like pattern⟩ row =
      some (Pattern.matchText pattern cell) := by
    have hne : ∀ b, Test.like pattern ≠ .null b := nofun
    have hv : Kind.text.coerce (.text cell) = some (.text cell) := rfl
    rw [Criterion.truth_of_value ⟨field, .text, .like pattern⟩ hne hcell hv]
    rfl
  rw [holds, truth, htruth]
  cases Pattern.matchText pattern cell <;> rfl

/-- The criterion of a condition with a text operator holds of a row exactly if the text of the condition stands at
    the place of the operator in the text of the row, provided that its pattern can be prepared; the escaped text
    alone matches itself and nothing else. -/
theorem Schema.holds_pattern_iff {s : Schema} {entity field : String} (h : s.resolve entity field = .ok .text)
    (t : String) :
    (∀ a : Anchor, s.compile entity (.simple [⟨field, .pattern a, .text t⟩]) =
        .ok (.leaf ⟨field, .text, .like (Pattern.anchored a t)⟩) ∧
      ((Pattern.prepare? (Pattern.anchored a t)).isSome = true →
        ∀ (row : Json) (cell : String), row.follow (Text.segments field) = some (.text cell) →
          ((Predicate.leaf ⟨field, .text, .like (Pattern.anchored a t)⟩).holds row = true ↔
            a.Finds t.toList cell.toList))) ∧
    ((Pattern.prepare? (String.ofList (Pattern.escape t.toList))).isSome = true →
      ∀ cell, Pattern.matchText (String.ofList (Pattern.escape t.toList)) cell = true ↔ cell = t) := by
  refine ⟨fun a => ⟨compile_pattern h a t, fun hprepared row cell hcell => ?_⟩, Pattern.matchText_escape⟩
  rw [Predicate.holds_like hcell, Pattern.matchText_anchored hprepared]

/-- Characters that patterns and expressions know, a line break and one outside the basic plane, in a related
    entity. -/
theorem Schema.holds_pattern_iff_special :
    let s : Schema := ⟨[("item", [("shop", .relation "shop")]), ("shop", [("motto", .value .text)])]⟩
    let t := "%_\\.*\n\"(🙂"
    let row : Json := .object [("shop", .object [("motto", .text "50%_\\.*\n\"(🙂")])]
    s.resolve "item" "shop.motto" = .ok .text ∧
      (Predicate.leaf ⟨"shop.motto", .text, .like (Pattern.anchored .back t)⟩).holds row = true ∧
      (Predicate.leaf ⟨"shop.motto", .text, .like (Pattern.anchored .front t)⟩).holds row = false ∧
      Pattern.matchText (String.ofList (Pattern.escape t.toList)) t = true := by
  intro s t row
  have hresolve : s.resolve "item" "shop.motto" = .ok .text := rfl
  have hcell : row.follow (Text.segments "shop.motto") = some (.text "50%_\\.*\n\"(🙂") := rfl
  obtain ⟨hplaces, hescape⟩ := holds_pattern_iff hresolve t
  refine ⟨hresolve, ?_, ?_, (hescape (by decide +kernel) t).mpr rfl⟩
  · exact ((hplaces .back).2 (by decide +kernel) row _ hcell).mpr ⟨['5', '0'], by decide +kernel⟩
  · have hfront : ¬t.toList <+: "50%_\\.*\n\"(🙂".toList := by decide +kernel
    exact Bool.eq_false_iff.mpr fun hholds =>
      hfront (((hplaces .front).2 (by decide +kernel) row _ hcell).mp hholds)

end RowFilter
