import RowFilter.Proofs.Pattern.Matching

/-! Patterns as expressions. A matching engine takes an expression between the front and the back of a text: a
    dot is any character, line breaks included, a dot with a star behind it any run of them, and a character
    that is a sign of expressions stands behind a backslash where it means itself. No character of a pattern
    turns into a sign: what is read in the expression of a pattern are the pattern's tokens. -/

namespace RowFilter.Expression

open Pattern

/-- The characters that are signs in an expression. -/
def signs : List Char := "\\.+*?()|[]\x7b\x7d^$#&-~".toList

/-- A token in an expression. -/
def ofToken : Token → List Char
  | .literal c => if c ∈ signs then ['\\', c] else [c]
  | .anyRun => ['.', '*']
  | .anyChar => ['.']

/-- A dot is any character from here on, and the text begins here. -/
def front : List Char := "(?s)^".toList

/-- The expression of whole texts that tokens match. -/
def ofTokens (ts : List Token) : List Char :=
  front ++ ts.flatMap ofToken ++ ['$']

/-- Reads an expression up to the back of the text. A sign in any other place than those of `ofTokens` is
    refused. -/
def upToBack? : List Char → Option (List Token)
  | ['$'] => some []
  | '.' :: '*' :: rest => (upToBack? rest).map (.anyRun :: ·)
  | '.' :: rest => (upToBack? rest).map (.anyChar :: ·)
  | '\\' :: c :: rest => if c ∈ signs then (upToBack? rest).map (.literal c :: ·) else none
  | c :: rest => if c ∈ signs then none else (upToBack? rest).map (.literal c :: ·)
  | [] => none

/-- The tokens of an expression of whole texts. -/
def tokens? (e : List Char) : Option (List Token) :=
  if front <+: e then upToBack? (e.drop front.length) else none

/-- The expression matches the text, unless it is too large to be prepared. -/
def accepts (e : List Char) (s : String) : Bool :=
  match tokens? e with
  | some ts => fits ts && matchTokens ts s
  | none => false

/-! ### Reading what is written -/

theorem upToBack?_of_not_sign {c : Char} (h : c ∉ signs) (rest : List Char) :
    upToBack? (c :: rest) = (upToBack? rest).map (.literal c :: ·) := by
  have hback : c ≠ '$' := by
    rintro rfl
    exact h (by decide)
  have hdot : c ≠ '.' := by
    rintro rfl
    exact h (by decide)
  have hescape : c ≠ '\\' := by
    rintro rfl
    exact h (by decide)
  rw [upToBack?.eq_def]
  split
  · next heq => exact absurd (List.cons.inj heq).1 hback
  · next heq => exact absurd (List.cons.inj heq).1 hdot
  · next heq => exact absurd (List.cons.inj heq).1 hdot
  · next heq => exact absurd (List.cons.inj heq).1 hescape
  · next heq =>
    obtain ⟨rfl, rfl⟩ := List.cons.inj heq
    rw [if_neg h]
  · next heq => cases heq

/-- A token is never written with a star at its front, so a dot before it stays a dot. -/
theorem head?_ne_star (ts : List Token) : (ts.flatMap ofToken ++ ['$']).head? ≠ some '*' := by
  have hstar : '*' ∈ signs := by decide
  rcases ts with _ | ⟨_ | _ | _, ts⟩
  · exact nofun
  · next c =>
    rw [List.flatMap_cons, ofToken]
    split
    · exact nofun
    · next hc =>
      rintro ⟨⟩
      exact hc hstar
  · exact nofun
  · exact nofun

theorem upToBack?_dot {rest : List Char} (h : rest.head? ≠ some '*') :
    upToBack? ('.' :: rest) = (upToBack? rest).map (.anyChar :: ·) := by
  rcases rest with _ | ⟨c, rest⟩
  · rfl
  · rw [upToBack?]
    rintro _ ⟨⟩
    exact h rfl

theorem upToBack?_ofTokens (ts : List Token) : upToBack? (ts.flatMap ofToken ++ ['$']) = some ts := by
  induction ts with
  | nil => rfl
  | cons t ts ih =>
    rw [List.flatMap_cons, List.append_assoc]
    cases t with
    | literal c =>
      rw [ofToken]
      split
      · next hc =>
        show upToBack? ('\\' :: c :: (ts.flatMap ofToken ++ ['$'])) = _
        rw [upToBack?, if_pos hc, ih, Option.map_some]
      · next hc =>
        show upToBack? (c :: (ts.flatMap ofToken ++ ['$'])) = _
        rw [upToBack?_of_not_sign hc, ih, Option.map_some]
    | anyRun =>
      show upToBack? ('.' :: '*' :: (ts.flatMap ofToken ++ ['$'])) = _
      rw [upToBack?, ih, Option.map_some]
    | anyChar =>
      show upToBack? ('.' :: (ts.flatMap ofToken ++ ['$'])) = _
      rw [upToBack?_dot (head?_ne_star ts), ih, Option.map_some]

theorem tokens?_ofTokens (ts : List Token) : tokens? (ofTokens ts) = some ts := by
  rw [tokens?, ofTokens, List.append_assoc, if_pos (List.prefix_append front _), List.drop_left, upToBack?_ofTokens]

/-- Matching by the expression of a pattern is matching by the pattern. -/
theorem accepts_ofTokens (pattern s : String) :
    accepts (ofTokens (tokens pattern.toList)) s = matchText pattern s := by
  simp only [accepts, tokens?_ofTokens, matchText, prepare?]
  cases fits (tokens pattern.toList) <;> rfl

end RowFilter.Expression

namespace RowFilter.Pattern

/-- A pattern that can be prepared matches a text, by its tokens or by its expression, exactly if the text can be
    cut into consecutive pieces that the parts of the pattern stand for. -/
theorem matchText_iff_covers {pattern : String} (h : (prepare? pattern).isSome = true) (s : String) :
    Expression.accepts (Expression.ofTokens (tokens pattern.toList)) s = matchText pattern s ∧
      (matchText pattern s = true ↔ ∃ pieces, Covers pattern.toList pieces ∧ pieces.flatten = s.toList) :=
  ⟨Expression.accepts_ofTokens pattern s, (matchText_iff h s).trans cuts_tokens_iff⟩

/-- Two runs around a literal that stands at several places, a sign of expressions, and a lone backslash. -/
theorem matchText_iff_covers_runs :
    (prepare? "%a%.\\").isSome = true ∧ matchText "%a%.\\" "banana\n.\\" = true := by
  have h : (prepare? "%a%.\\").isSome = true := by decide +kernel
  have hlast : Covers ['.', '\\'] [['.'], ['\\']] := .plain (by decide) (by decide) (by decide) .loneEscape
  have hcovers : Covers "%a%.\\".toList ["ban".toList, ['a'], "na\n".toList, ['.'], ['\\']] :=
    .anyRun _ (.plain (by decide) (by decide) (by decide) (.anyRun _ hlast))
  exact ⟨h, (matchText_iff_covers h _).2.mpr ⟨_, hcovers, by decide +kernel⟩⟩

end RowFilter.Pattern
