import RowFilter.Proofs.Clause.Lexeme

/-! Clauses as operands, connectives and parentheses. A criterion takes its column, its words and its
    placeholders off the lexemes, and its literals off the parameters, so that the word between the two
    placeholders of a range is none of the connectives of the clause. -/

namespace RowFilter

/-- The criterion without its kind, which clauses do not write. -/
def Criterion.withoutKind (c : Criterion) : Criterion :=
  ⟨c.field, default, c.test⟩

namespace Clause

/-- What a clause is made of. -/
inductive Item where
  | operand (p : Predicate)
  | opening
  | closing
  | joint (c : Connective)
  | negation
  deriving DecidableEq, Repr

/-! ### Reading -/

/-- What is read, and the lexemes and parameters behind it. -/
abbrev Taken (α : Type) := Option (α × List Lexeme × List Literal)

/-- Quoted names with dots between them. -/
def column? : List Lexeme → Option (List (List Char) × List Lexeme)
  | .quoted '"' cs :: .mark '.' :: rest => (column? rest).map fun (parts, rest) => (cs :: parts, rest)
  | .quoted '"' cs :: rest => some ([cs], rest)
  | _ => none

/-- Placeholders with commas between them, up to a parenthesis. -/
def placeholders? : List Lexeme → List Literal → Taken (List Literal)
  | .mark '?' :: .mark ',' :: rest, v :: ps =>
    (placeholders? rest ps).map fun (vs, rest, ps) => (v :: vs, rest, ps)
  | .mark '?' :: .mark ')' :: rest, v :: ps => some ([v], rest, ps)
  | _, _ => none

/-- A choice among the values between two parentheses, of which there may be none. -/
def member? (positive : Bool) : List Lexeme → List Literal → Taken Test
  | .mark '(' :: .mark ')' :: rest, ps => some (.member positive [], rest, ps)
  | .mark '(' :: rest, ps => (placeholders? rest ps).map fun (vs, rest, ps) => (.member positive vs, rest, ps)
  | _, _ => none

/-- The pattern of a test behind its first word. -/
def like? : List Lexeme → List Literal → Taken Test
  | .mark '?' :: l :: .quoted '\'' ['\\'] :: rest, .text p :: ps =>
    if l = keyword "ESCAPE" then some (.like p, rest, ps) else none
  | _, _ => none

/-- The ends of a range behind the first word of its test. -/
def between? : List Lexeme → List Literal → Taken Test
  | .mark '?' :: l :: .mark '?' :: rest, low :: high :: ps =>
    if l = keyword "AND" then some (.between low high, rest, ps) else none
  | _, _ => none

/-- A test for null behind its first word. -/
def null? : List Lexeme → List Literal → Taken Test
  | l :: rest, ps =>
    if l = keyword "NULL" then some (.null true, rest, ps)
    else match rest with
      | l' :: rest => if l = keyword "NOT" ∧ l' = keyword "NULL" then some (.null false, rest, ps) else none
      | [] => none
  | [], _ => none

/-- The comparison that a lexeme is the sign of. -/
def comparison? (l : Lexeme) : Option Comparison :=
  [.eq, .ne, .gt, .gte, .lt, .lte].find? fun c => l == .run c.sign

/-- A comparison behind its sign. -/
def compare? (l : Lexeme) : List Lexeme → List Literal → Taken Test
  | .mark '?' :: rest, v :: ps => (comparison? l).map fun c => (.compare c v, rest, ps)
  | _, _ => none

/-- The test behind a column. -/
def test? : List Lexeme → List Literal → Taken Test
  | [], _ => none
  | l :: rest, ps =>
    if l = keyword "LIKE" then like? rest ps
    else if l = keyword "BETWEEN" then between? rest ps
    else if l = keyword "IS" then null? rest ps
    else if l = keyword "IN" then member? true rest ps
    else if l = keyword "NOT" then
      if rest.head? = some (keyword "IN") then member? false rest.tail ps else none
    else compare? l rest ps

/-- A criterion. -/
def criterion? (ls : List Lexeme) (ps : List Literal) : Taken Criterion :=
  (column? ls).bind fun (parts, rest) => (test? rest ps).map fun (t, rest, ps) =>
    (⟨String.ofList (SqlStyle.joined ['.'] parts), default, t⟩, rest, ps)

/-- The first item of a clause. -/
def item? : List Lexeme → List Literal → Taken Item
  | .mark '(' :: rest, ps => some (.opening, rest, ps)
  | .mark ')' :: rest, ps => some (.closing, rest, ps)
  | .quoted q cs :: rest, ps =>
    (criterion? (.quoted q cs :: rest) ps).map fun (c, rest, ps) => (.operand (.leaf c), rest, ps)
  | l :: rest, ps =>
    if l = keyword "TRUE" then some (.operand .always, rest, ps)
    else if l = keyword "NOT" then some (.negation, rest, ps)
    else if l = keyword "AND" then some (.joint .and, rest, ps)
    else if l = keyword "OR" then some (.joint .or, rest, ps)
    else none
  | [], _ => none

/-- The items of a clause, all of its parameters being used. -/
def items? (ls : List Lexeme) (ps : List Literal) : Option (List Item) :=
  if ls.isEmpty then (if ps.isEmpty then some [] else none)
  else match item? ls ps with
    | none => none
    | some (i, rest, ps) => if rest.length < ls.length then (i :: ·) <$> items? rest ps else none
termination_by ls.length

/-! ### The items of a predicate -/

/-- Items between parentheses. -/
def inParens (is : List Item) : List Item :=
  .opening :: (is ++ [.closing])

/-- The items of a predicate without conditions in SQL. -/
def itemsOf : Predicate → List Item
  | .always => [.operand .always]
  | .leaf c => [.operand (.leaf c.withoutKind)]
  | .join c l r =>
    (if Predicate.needsParens c false l then inParens (itemsOf l) else itemsOf l) ++
      .joint c :: (if Predicate.needsParens c true r then inParens (itemsOf r) else itemsOf r)
  | .negation p => .negation :: inParens (itemsOf p)
  | .raw _ => []

theorem joined_split (separator : Char) (cs : List Char) :
    SqlStyle.joined [separator] (Text.split separator cs) = cs := by
  induction cs with
  | nil => rfl
  | cons c cs ih =>
    obtain ⟨part, parts, hsplit⟩ := List.exists_cons_of_ne_nil (Text.split_ne_nil separator cs)
    rw [hsplit] at ih
    rw [Text.split, hsplit]
    by_cases hc : c = separator
    · subst hc
      rw [if_pos rfl, SqlStyle.joined, ih]
      · rfl
      · exact List.cons_ne_nil part parts
    · rw [if_neg hc]
      cases parts with
      | nil => exact congrArg (c :: ·) ih
      | cons part' parts => exact congrArg (c :: ·) ih

theorem column?_nameLexemes {parts : List (List Char)} (hne : parts ≠ []) {rest : List Lexeme}
    (hr : rest.head? ≠ some (.mark '.')) : column? (nameLexemes parts ++ rest) = some (parts, rest) := by
  induction parts with
  | nil => exact absurd rfl hne
  | cons cs parts ih =>
    cases parts with
    | nil =>
      show column? (.quoted '"' cs :: rest) = _
      rw [column?]
      rintro rest' rfl
      exact hr rfl
    | cons ds parts =>
      show column? (.quoted '"' cs :: .mark '.' :: (nameLexemes (ds :: parts) ++ rest)) = _
      rw [column?, ih (List.cons_ne_nil ds parts)]
      rfl

theorem placeholders?_placeholders {vs : List Literal} (hne : vs ≠ []) (rest : List Lexeme) (ps : List Literal) :
    placeholders? (placeholders vs ++ .mark ')' :: rest) (vs ++ ps) = some (vs, rest, ps) := by
  induction vs with
  | nil => exact absurd rfl hne
  | cons v vs ih =>
    cases vs with
    | nil => rfl
    | cons w vs =>
      show placeholders? (.mark '?' :: .mark ',' :: (placeholders (w :: vs) ++ .mark ')' :: rest))
        (v :: (w :: vs ++ ps)) = _
      rw [placeholders?, ih (List.cons_ne_nil w vs)]
      rfl

theorem member?_placeholders (positive : Bool) (vs : List Literal) (rest : List Lexeme) (ps : List Literal) :
    member? positive (.mark '(' :: (placeholders vs ++ .mark ')' :: rest)) (vs ++ ps) =
      some (.member positive vs, rest, ps) := by
  cases vs with
  | nil => rfl
  | cons v vs =>
    have hplaceholders := placeholders?_placeholders (List.cons_ne_nil v vs) rest ps
    rw [member?, hplaceholders]
    · rfl
    · intro rest' heq
      cases vs <;> cases heq

theorem test?_testLexemes (t : Test) (rest : List Lexeme) (ps : List Literal) :
    test? (testLexemes t ++ rest) (t.parameters ++ ps) = some (t, rest, ps) := by
  cases t with
  | compare c v => cases c <;> rfl
  | like p => rfl
  | member positive vs =>
    have hmember := member?_placeholders positive vs rest ps
    rw [testLexemes, List.append_assoc, List.cons_append, List.cons_append, List.append_assoc]
    cases positive with
    | true => exact hmember
    | false => exact hmember
  | between low high => rfl
  | null positive => cases positive <;> rfl

theorem head?_testLexemes (t : Test) (rest : List Lexeme) : (testLexemes t ++ rest).head? ≠ some (.mark '.') := by
  cases t with
  | member positive vs => cases positive <;> exact nofun
  | _ => exact nofun

theorem criterion?_lexemes (c : Criterion) (rest : List Lexeme) (ps : List Literal) :
    criterion? (nameLexemes (Text.split '.' c.field.toList) ++ (testLexemes c.test ++ rest)) (c.test.parameters ++ ps) =
      some (c.withoutKind, rest, ps) := by
  simp only [criterion?, column?_nameLexemes (Text.split_ne_nil _ _) (head?_testLexemes c.test rest),
    Option.bind_some, test?_testLexemes, Option.map_some, joined_split, String.ofList_toList]
  rfl

section
variable {rest : List Lexeme} {ps : List Literal} {is : List Item}

theorem items?_of_item? {ls : List Lexeme} {ps' : List Literal} {i : Item} (hi : item? ls ps' = some (i, rest, ps))
    (hlt : rest.length < ls.length) (h : items? rest ps = some is) : items? ls ps' = some (i :: is) := by
  have hne : ls.isEmpty = false := by
    cases ls with
    | nil => cases hi
    | cons l ls => rfl
  rw [items?, hne, if_neg Bool.false_ne_true, hi]
  simp only [hlt, if_true, h]
  rfl

theorem items?_leaf (c : Criterion) (h : items? rest ps = some is) :
    items? (nameLexemes (Text.split '.' c.field.toList) ++ (testLexemes c.test ++ rest)) (c.test.parameters ++ ps) =
      some (.operand (.leaf c.withoutKind) :: is) := by
  have hcriterion := criterion?_lexemes c rest ps
  have hlength : rest.length <
      (nameLexemes (Text.split '.' c.field.toList) ++ (testLexemes c.test ++ rest)).length := by
    have htest : 0 < (testLexemes c.test).length := by
      cases c.test with
      | member positive vs => cases positive <;> exact Nat.zero_lt_succ _
      | _ => exact Nat.zero_lt_succ _
    rw [List.length_append, List.length_append]
    omega
  refine items?_of_item? ?_ hlength h
  obtain ⟨cs, parts, hparts⟩ := List.exists_cons_of_ne_nil (Text.split_ne_nil '.' c.field.toList)
  rw [hparts] at hcriterion ⊢
  have hitem : ∀ tail, item? (.quoted '"' cs :: tail) (c.test.parameters ++ ps) =
      (criterion? (.quoted '"' cs :: tail) (c.test.parameters ++ ps)).map
        fun (c, rest, ps) => (.operand (.leaf c), rest, ps) := fun _ => rfl
  cases parts with
  | nil => exact (hitem _).trans (congrArg (Option.map _) hcriterion)
  | cons ds parts => exact (hitem _).trans (congrArg (Option.map _) hcriterion)

theorem items?_enclosed {p : Predicate} (h : items? rest ps = some is)
    (hp : ∀ {rest ps is}, items? rest ps = some is →
      items? (lexemesOf p ++ rest) (p.parameters ++ ps) = some (itemsOf p ++ is)) :
    items? (enclosed (lexemesOf p) ++ rest) (p.parameters ++ ps) = some (inParens (itemsOf p) ++ is) := by
  have hclose : items? (.mark ')' :: rest) ps = some (.closing :: is) := items?_of_item? rfl (Nat.lt_succ_self _) h
  have hopen : items? (.mark '(' :: (lexemesOf p ++ .mark ')' :: rest)) (p.parameters ++ ps) =
      some (.opening :: (itemsOf p ++ .closing :: is)) := items?_of_item? rfl (Nat.lt_succ_self _) (hp hclose)
  simpa [enclosed, inParens] using hopen

theorem items?_operand {p : Predicate} (b : Bool) (h : items? rest ps = some is)
    (hp : ∀ {rest ps is}, items? rest ps = some is →
      items? (lexemesOf p ++ rest) (p.parameters ++ ps) = some (itemsOf p ++ is)) :
    items? ((if b then enclosed (lexemesOf p) else lexemesOf p) ++ rest) (p.parameters ++ ps) =
      some ((if b then inParens (itemsOf p) else itemsOf p) ++ is) := by
  cases b with
  | false => exact hp h
  | true => exact items?_enclosed h hp

/-- The lexemes and parameters of a predicate have its items, in front of whatever follows. -/
theorem items?_lexemesOf {p : Predicate} (hp : p.isPlain = true) (h : items? rest ps = some is) :
    items? (lexemesOf p ++ rest) (p.parameters ++ ps) = some (itemsOf p ++ is) := by
  induction p generalizing rest ps is with
  | always => exact items?_of_item? rfl (Nat.lt_succ_self _) h
  | leaf c =>
    have hparameters : (Predicate.leaf c).parameters = c.test.parameters := List.flatMap_singleton _ _
    rw [lexemesOf, hparameters, List.append_assoc]
    exact items?_leaf c h
  | join c l r ihl ihr =>
    obtain ⟨hl, hr⟩ := Bool.and_eq_true_iff.mp hp
    have hparameters : (Predicate.join c l r).parameters = l.parameters ++ r.parameters := List.flatMap_append
    have hright := items?_operand (Predicate.needsParens c true r) h (ihr hr)
    have hname : ∀ tail ps, item? (keyword c.name :: tail) ps = some (.joint c, tail, ps) := fun _ _ => by
      cases c <;> rfl
    have hjoint := items?_of_item? (hname _ _) (Nat.lt_succ_self _) hright
    have hleft := items?_operand (Predicate.needsParens c false l) hjoint (ihl hl)
    rw [lexemesOf, itemsOf, hparameters, List.append_assoc, List.append_assoc, List.append_assoc, List.cons_append]
    exact hleft
  | negation p ih => exact items?_of_item? rfl (Nat.lt_succ_self _) (items?_enclosed h (ih hp))
  | raw sql => cases hp

end

end Clause

end RowFilter
