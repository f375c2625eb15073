import Mathlib.Data.List.Forall2
import Mathlib.Data.List.Infix
import RowFilter.Proofs.Pattern.Classification

/-! What a pattern matches. The matcher answers for every end part of a text at once, token by token from the
    last one on; its answers are right because each says whether that part of the text can be cut into
    consecutive pieces, one for each token. -/

namespace RowFilter.Pattern

/-! ### Pieces of tokens -/

/-- The piece of a text is one that the token stands for. -/
inductive Token.Takes : Token → List Char → Prop
  | literal (c : Char) : Takes (.literal c) [c]
  | anyChar (c : Char) : Takes .anyChar [c]
  | anyRun (run : List Char) : Takes .anyRun run

/-- The text can be cut into consecutive pieces, one for each token. -/
def Cuts (ts : List Token) (cs : List Char) : Prop :=
  ∃ pieces, List.Forall₂ Token.Takes ts pieces ∧ pieces.flatten = cs

variable {t : Token} {ts : List Token} {cs : List Char}

theorem cuts_nil_iff : Cuts [] cs ↔ cs = [] := by
  constructor
  · rintro ⟨pieces, hpieces, rfl⟩
    rw [List.forall₂_nil_left_iff.mp hpieces, List.flatten_nil]
  · rintro rfl
    exact ⟨[], .nil, rfl⟩

theorem cuts_cons_iff :
    Cuts (t :: ts) cs ↔ ∃ piece rest, t.Takes piece ∧ Cuts ts rest ∧ cs = piece ++ rest := by
  constructor
  · rintro ⟨pieces, hpieces, rfl⟩
    obtain ⟨piece, others, htakes, hothers, rfl⟩ := List.forall₂_cons_left_iff.mp hpieces
    exact ⟨piece, others.flatten, htakes, ⟨others, hothers, rfl⟩, List.flatten_cons⟩
  · rintro ⟨piece, rest, htakes, ⟨others, hothers, rfl⟩, rfl⟩
    exact ⟨piece :: others, .cons htakes hothers, List.flatten_cons⟩

theorem cuts_literal_iff {c : Char} : Cuts (.literal c :: ts) cs ↔ ∃ rest, Cuts ts rest ∧ cs = c :: rest := by
  rw [cuts_cons_iff]
  constructor
  · rintro ⟨_, rest, ⟨⟩, hrest, rfl⟩
    exact ⟨rest, hrest, rfl⟩
  · rintro ⟨rest, hrest, rfl⟩
    exact ⟨[c], rest, .literal c, hrest, rfl⟩

theorem cuts_anyChar_iff : Cuts (.anyChar :: ts) cs ↔ ∃ c rest, Cuts ts rest ∧ cs = c :: rest := by
  rw [cuts_cons_iff]
  constructor
  · rintro ⟨_, rest, ⟨_⟩, hrest, rfl⟩
    exact ⟨_, rest, hrest, rfl⟩
  · rintro ⟨c, rest, hrest, rfl⟩
    exact ⟨[c], rest, .anyChar c, hrest, rfl⟩

theorem cuts_anyRun_iff : Cuts (.anyRun :: ts) cs ↔ ∃ run rest, Cuts ts rest ∧ cs = run ++ rest := by
  rw [cuts_cons_iff]
  constructor
  · rintro ⟨run, rest, -, hrest, rfl⟩
    exact ⟨run, rest, hrest, rfl⟩
  · rintro ⟨run, rest, hrest, rfl⟩
    exact ⟨run, rest, .anyRun run, hrest, rfl⟩

/-- A run ends at once, or it takes a character and goes on. -/
theorem cuts_anyRun_cons_iff {c : Char} :
    Cuts (.anyRun :: ts) (c :: cs) ↔ Cuts ts (c :: cs) ∨ Cuts (.anyRun :: ts) cs := by
  rw [cuts_anyRun_iff, cuts_anyRun_iff]
  constructor
  · rintro ⟨_ | ⟨d, run⟩, rest, hrest, heq⟩
    · rw [heq]
      exact .inl hrest
    · obtain ⟨-, rfl⟩ := List.cons.inj heq
      exact .inr ⟨run, rest, hrest, rfl⟩
  · rintro (hrest | ⟨run, rest, hrest, rfl⟩)
    · exact ⟨[], c :: cs, hrest, rfl⟩
    · exact ⟨c :: run, rest, hrest, rfl⟩

/-! ### The rows of the matcher -/

/-- The answers of a row, one for each end part of a text, say which of these parts can be cut. -/
def Answers (ts : List Token) (row : List Bool) (cs : List Char) : Prop :=
  List.Forall₂ (fun here part => here = true ↔ Cuts ts part) row cs.tails

theorem Answers.headD {row : List Bool} (h : Answers ts row cs) : row.headD false = true ↔ Cuts ts cs := by
  cases cs with
  | nil =>
    rw [Answers, List.tails] at h
    obtain ⟨here, _, hhere, -, rfl⟩ := List.forall₂_cons_right_iff.mp h
    exact hhere
  | cons c cs =>
    rw [Answers, List.tails_cons] at h
    obtain ⟨here, _, hhere, -, rfl⟩ := List.forall₂_cons_right_iff.mp h
    exact hhere

/-- One token more: the row for the tokens behind it decides the row with it. -/
theorem answers_matchToken (t : Token) {row : List Bool} (h : Answers ts row cs) :
    Answers (t :: ts) (matchToken t cs row) cs := by
  induction cs generalizing row with
  | nil =>
    rw [Answers, List.tails] at h
    obtain ⟨here, next, hhere, -, rfl⟩ := List.forall₂_cons_right_iff.mp h
    refine List.Forall₂.cons ?_ .nil
    cases t with
    | literal d => simp [cuts_literal_iff]
    | anyChar => simp [cuts_anyChar_iff]
    | anyRun => simp [cuts_anyRun_iff, hhere]
  | cons c cs ih =>
    rw [Answers, List.tails_cons] at h
    obtain ⟨here, next, hhere, hnext, rfl⟩ := List.forall₂_cons_right_iff.mp h
    -- Only the answer for the whole text is new: the induction has those for its end parts.
    have hrest : Answers (t :: ts) (matchToken t cs next) cs := ih hnext
    have hbehind : next.headD false = true ↔ Cuts ts cs := Answers.headD hnext
    refine List.Forall₂.cons ?_ hrest
    cases t with
    | literal d =>
      rw [cuts_literal_iff, Bool.and_eq_true, beq_iff_eq, hbehind]
      constructor
      · rintro ⟨rfl, hcs⟩
        exact ⟨cs, hcs, rfl⟩
      · rintro ⟨rest, hrest, heq⟩
        obtain ⟨rfl, rfl⟩ := List.cons.inj heq
        exact ⟨rfl, hrest⟩
    | anyChar =>
      rw [cuts_anyChar_iff, hbehind]
      constructor
      · intro hcs
        exact ⟨c, cs, hcs, rfl⟩
      · rintro ⟨d, rest, hrest, heq⟩
        obtain ⟨rfl, rfl⟩ := List.cons.inj heq
        exact hrest
    | anyRun => rw [cuts_anyRun_cons_iff, Bool.or_eq_true, hhere, hrest.headD]

theorem answers_matchRow (ts : List Token) (cs : List Char) : Answers ts (matchRow cs ts) cs := by
  induction ts with
  | cons t ts ih => exact answers_matchToken t ih
  | nil =>
    rw [matchRow]
    induction cs with
    | nil => exact .cons (by simp [cuts_nil_iff]) .nil
    | cons c cs ih =>
      rw [Answers, List.tails_cons]
      exact .cons (by simp [cuts_nil_iff]) ih

theorem matchTokens_iff {s : String} : matchTokens ts s = true ↔ Cuts ts s.toList :=
  (answers_matchRow ts s.toList).headD

theorem matchText_iff {pattern : String} (h : (prepare? pattern).isSome = true) (s : String) :
    matchText pattern s = true ↔ Cuts (tokens pattern.toList) s.toList := by
  have hfits : fits (tokens pattern.toList) = true := by
    by_contra hnot
    simp [prepare?, hnot] at h
  rw [matchText, prepare?, if_pos hfits]
  exact matchTokens_iff

/-! ### Pieces of patterns -/

/-- The pattern as it is written, part by part from the left, stands for the pieces of a text. -/
inductive Covers : List Char → List (List Char) → Prop
  | done : Covers [] []
  | anyRun {p : List Char} {pieces : List (List Char)} (run : List Char) (h : Covers p pieces) :
    Covers ('%' :: p) (run :: pieces)
  | anyChar {p : List Char} {pieces : List (List Char)} (c : Char) (h : Covers p pieces) :
    Covers ('_' :: p) ([c] :: pieces)
  | escaped {p : List Char} {pieces : List (List Char)} (c : Char) (h : Covers p pieces) :
    Covers ('\\' :: c :: p) ([c] :: pieces)
  | loneEscape : Covers ['\\'] [['\\']]
  | plain {p : List Char} {pieces : List (List Char)} {c : Char} (hrun : c ≠ '%') (hchar : c ≠ '_')
    (hescape : c ≠ '\\') (h : Covers p pieces) : Covers (c :: p) ([c] :: pieces)

/-- The parts of a pattern are its tokens. -/
theorem covers_iff {p : List Char} {pieces : List (List Char)} :
    Covers p pieces ↔ List.Forall₂ Token.Takes (tokens p) pieces := by
  constructor
  · intro h
    induction h with
    | done => exact .nil
    | anyRun run _ ih => exact .cons (.anyRun run) ih
    | anyChar c _ ih => exact .cons (.anyChar c) ih
    | escaped c _ ih => exact .cons (.literal c) ih
    | loneEscape => exact .cons (.literal _) .nil
    | plain hrun hchar hescape _ ih =>
      rw [tokens_of_not_special (isSpecial_eq_false_iff.mpr ⟨hrun, hchar, hescape⟩)]
      exact .cons (.literal _) ih
  · intro h
    fun_induction tokens p generalizing pieces with
    | case1 =>
      cases h
      exact .done
    | case2 =>
      obtain _ | ⟨⟨⟩, ⟨⟩⟩ := h
      exact .loneEscape
    | case3 c rest ih =>
      obtain _ | ⟨⟨⟩, hrest⟩ := h
      exact .escaped c (ih hrest)
    | case4 rest ih =>
      obtain _ | ⟨⟨_⟩, hrest⟩ := h
      exact .anyRun _ (ih hrest)
    | case5 rest ih =>
      obtain _ | ⟨⟨_⟩, hrest⟩ := h
      exact .anyChar _ (ih hrest)
    | case6 c rest hlone hescaped hrun hchar ih =>
      obtain _ | ⟨⟨⟩, hrest⟩ := h
      have hescape : c ≠ '\\' := by
        cases rest with
        | nil => exact fun h => hlone h rfl
        | cons d rest => exact fun h => hescaped d rest h rfl
      exact .plain hrun hchar hescape (ih hrest)

theorem cuts_tokens_iff {p cs : List Char} :
    Cuts (tokens p) cs ↔ ∃ pieces, Covers p pieces ∧ pieces.flatten = cs := by
  simp only [Cuts, covers_iff]

end RowFilter.Pattern
