import RowFilter.Proofs.Clause.Item
import RowFilter.Proofs.Conversion.Recovery

/-! Clauses read by the precedence of SQL: a negation takes the operand behind it, "and" binds tighter
    than "or", and both join from the left. Read so, the clause of a predicate with its parameters gives
    the predicate back, whatever its shape, its names and its literals are. -/

namespace RowFilter.Clause

/-! ### Precedence -/

/-- What stands before an operand, up to the parenthesis around it. -/
structure Level where
  disjunct : Option Predicate
  conjunct : Option Predicate
  negations : Nat

namespace Level

/-- Nothing stands before the operand. -/
def fresh : Level := ⟨none, none, 0⟩

/-- The operand with the negations in front of it. -/
def negate (l : Level) (p : Predicate) : Predicate :=
  l.negations.repeat .negation p

/-- The level behind its negated operand. -/
def settled (l : Level) : Level := { l with negations := 0 }

/-- A predicate joined to the one before it, if there is one. -/
def joinTo (c : Connective) (before : Option Predicate) (p : Predicate) : Predicate :=
  match before with
  | none => p
  | some q => .join c q p

/-- The operand with the operands before it, as tight as "and". -/
def conjunction (l : Level) (p : Predicate) : Predicate :=
  joinTo .and l.conjunct p

/-- The operand with all operands before it. -/
def disjunction (l : Level) (p : Predicate) : Predicate :=
  joinTo .or l.disjunct (l.conjunction p)

end Level

/-- How far a clause has been read: the levels around the innermost parentheses, the level within them,
    and its last operand, if no operand is missing. -/
structure Progress where
  outer : List Level
  level : Level
  operand : Option Predicate

namespace Progress

/-- Nothing has been read. -/
def initial : Progress := ⟨[], .fresh, none⟩

/-- Reads an item, if it can stand there. -/
def step : Progress → Item → Option Progress
  | ⟨outer, l, none⟩, .operand p => some ⟨outer, l.settled, some (l.negate p)⟩
  | ⟨outer, l, none⟩, .negation => some ⟨outer, { l with negations := l.negations + 1 }, none⟩
  | ⟨outer, l, none⟩, .opening => some ⟨l :: outer, .fresh, none⟩
  | ⟨outer, l, some p⟩, .joint .and => some ⟨outer, ⟨l.disjunct, some (l.conjunction p), 0⟩, none⟩
  | ⟨outer, l, some p⟩, .joint .or => some ⟨outer, ⟨some (l.disjunction p), none, 0⟩, none⟩
  | ⟨l' :: outer, l, some p⟩, .closing => some ⟨outer, l'.settled, some (l'.negate (l.disjunction p))⟩
  | _, _ => none

/-- Reads items one after another. -/
def run : Progress → List Item → Option Progress
  | s, [] => some s
  | s, i :: is => (s.step i).bind fun s => run s is

/-- The predicate that has been read, if all parentheses are closed. -/
def finish? : Progress → Option Predicate
  | ⟨[], l, some p⟩ => some (l.disjunction p)
  | _ => none

end Progress

/-- The predicate of a clause and its parameters. -/
def decode? (cs : List Char) (ps : List Literal) : Option Predicate := do
  let ls ← lexemes? .between cs
  let is ← items? ls ps
  let s ← Progress.initial.run is
  s.finish?

/-! ### Reading the items of a predicate -/

/-- The predicate without the kinds of its criteria. -/
abbrev bare (p : Predicate) : Predicate :=
  p.mapCriteria Criterion.withoutKind

namespace Progress

/-- Items are read as one operand, wherever it stands. -/
def ReadsOperand (is : List Item) (p : Predicate) : Prop :=
  ∀ outer l rest, run ⟨outer, l, none⟩ (is ++ rest) = run ⟨outer, l.settled, some (l.negate p)⟩ rest

/-- Items are read as a predicate that "and" joins, where a side of an "or" can stand. -/
def ReadsConjunction (is : List Item) (p : Predicate) : Prop :=
  ∀ outer d rest, ∃ c q, run ⟨outer, ⟨d, none, 0⟩, none⟩ (is ++ rest) = run ⟨outer, ⟨d, c, 0⟩, some q⟩ rest ∧
    Level.conjunction ⟨d, c, 0⟩ q = p

/-- Items are read as a predicate, with nothing before it. -/
def ReadsDisjunction (is : List Item) (p : Predicate) : Prop :=
  ∀ outer rest, ∃ d c q, run ⟨outer, .fresh, none⟩ (is ++ rest) = run ⟨outer, ⟨d, c, 0⟩, some q⟩ rest ∧
    Level.disjunction ⟨d, c, 0⟩ q = p

theorem ReadsOperand.conjunction {is : List Item} {p : Predicate} (h : ReadsOperand is p) : ReadsConjunction is p :=
  fun outer d rest => ⟨none, p, h outer ⟨d, none, 0⟩ rest, rfl⟩

theorem ReadsConjunction.disjunction {is : List Item} {p : Predicate} (h : ReadsConjunction is p) :
    ReadsDisjunction is p := by
  intro outer rest
  obtain ⟨c, q, hrun, hq⟩ := h outer none rest
  exact ⟨none, c, q, hrun, hq⟩

theorem ReadsDisjunction.inParens {is : List Item} {p : Predicate} (h : ReadsDisjunction is p) :
    ReadsOperand (inParens is) p := by
  intro outer l rest
  obtain ⟨d, c, q, hrun, hq⟩ := h (l :: outer) (.closing :: rest)
  have happend : Clause.inParens is ++ rest = .opening :: (is ++ .closing :: rest) := by
    simp [Clause.inParens]
  have hstep : step ⟨outer, l, none⟩ .opening = some ⟨l :: outer, .fresh, none⟩ := rfl
  rw [happend, run, hstep, Option.bind_some, hrun, run, ← hq]
  rfl

theorem ReadsOperand.negation {is : List Item} {p : Predicate} (h : ReadsOperand is p) :
    ReadsOperand (.negation :: is) (.negation p) := by
  intro outer l rest
  have hstep : step ⟨outer, l, none⟩ .negation = some ⟨outer, { l with negations := l.negations + 1 }, none⟩ := rfl
  have hnegate : Level.negate { l with negations := l.negations + 1 } p = l.negate (.negation p) := by
    unfold Level.negate
    induction l.negations with
    | zero => rfl
    | succ n ih => exact congrArg Predicate.negation ih
  rw [List.cons_append, run, hstep, Option.bind_some, h, hnegate]
  rfl

theorem readsConjunction_and {left right : List Item} {p q : Predicate} (hl : ReadsConjunction left p)
    (hr : ReadsOperand right q) : ReadsConjunction (left ++ .joint .and :: right) (.join .and p q) := by
  intro outer d rest
  obtain ⟨c, p', hrun, hp⟩ := hl outer d (.joint .and :: (right ++ rest))
  refine ⟨some p, q, ?_, rfl⟩
  rw [List.append_assoc, List.cons_append, hrun, run, ← hp]
  exact hr outer ⟨d, _, 0⟩ rest

theorem readsDisjunction_or {left right : List Item} {p q : Predicate} (hl : ReadsDisjunction left p)
    (hr : ReadsConjunction right q) : ReadsDisjunction (left ++ .joint .or :: right) (.join .or p q) := by
  intro outer rest
  obtain ⟨d, c, p', hrun, hp⟩ := hl outer (.joint .or :: (right ++ rest))
  obtain ⟨c', q', hrun', hq⟩ := hr outer (some p) rest
  refine ⟨some p, c', q', ?_, congrArg (Predicate.join .or p) hq⟩
  rw [List.append_assoc, List.cons_append, hrun, run, ← hrun', ← hp]
  rfl

/-- A predicate is read from its items; as one side of an "or" unless it is one itself, and as one operand
    unless it is a join. -/
theorem reads_itemsOf {p : Predicate} (hp : p.isPlain = true) :
    ReadsDisjunction (itemsOf p) (bare p) ∧
      (p.connective? ≠ some .or → ReadsConjunction (itemsOf p) (bare p)) ∧
      (p.connective? = none → ReadsOperand (itemsOf p) (bare p)) := by
  -- A predicate that is read as one operand is read in the other two ways as well.
  have hall : ∀ {p}, ReadsOperand (itemsOf p) (bare p) → ReadsDisjunction (itemsOf p) (bare p) ∧
      (p.connective? ≠ some .or → ReadsConjunction (itemsOf p) (bare p)) ∧
      (p.connective? = none → ReadsOperand (itemsOf p) (bare p)) :=
    fun h => ⟨h.conjunction.disjunction, fun _ => h.conjunction, fun _ => h⟩
  induction p with
  | always => exact hall fun _ _ _ => rfl
  | leaf c => exact hall fun _ _ _ => rfl
  | negation p ih => exact hall (ih hp).1.inParens.negation
  | raw sql => cases hp
  | join c l r ihl ihr =>
    obtain ⟨hl, hr⟩ := Bool.and_eq_true_iff.mp hp
    obtain ⟨hldisjunction, hlconjunction, hloperand⟩ := ihl hl
    obtain ⟨hrdisjunction, -, hroperand⟩ := ihr hr
    have hright :
        ReadsOperand (if Predicate.needsParens c true r then inParens (itemsOf r) else itemsOf r) (bare r) := by
      unfold Predicate.needsParens
      cases hc : r.connective? with
      | none => exact hroperand hc
      | some d => exact hrdisjunction.inParens
    cases c with
    | and =>
      have hleft : ReadsConjunction (if Predicate.needsParens .and false l then inParens (itemsOf l) else itemsOf l)
          (bare l) := by
        unfold Predicate.needsParens
        cases hc : l.connective? with
        | none => exact (hloperand hc).conjunction
        | some d => cases d with
          | and => exact hlconjunction (by simp [hc])
          | or => exact hldisjunction.inParens.conjunction
      have hjoin := readsConjunction_and hleft hright
      exact ⟨hjoin.disjunction, fun _ => hjoin, nofun⟩
    | or =>
      have hleft : ReadsDisjunction (if Predicate.needsParens .or false l then inParens (itemsOf l) else itemsOf l)
          (bare l) := by
        unfold Predicate.needsParens
        cases hc : l.connective? with
        | none => exact (hloperand hc).conjunction.disjunction
        | some d => cases d with
          | and => exact hldisjunction.inParens.conjunction.disjunction
          | or => exact hldisjunction
      exact ⟨readsDisjunction_or hleft hright.conjunction, fun h => absurd rfl h, nofun⟩

end Progress

/-- The clause of a predicate and its parameters are read as the predicate, but for the kinds of its
    criteria. -/
theorem decode?_clause {p : Predicate} (hp : p.isPlain = true) :
    decode? p.clause.toList p.parameters = some (bare p) := by
  have hlexemes : lexemes? .between (p.sql .bound ++ []) = some (lexemesOf p ++ []) := lexemes?_sql hp nofun rfl
  have hend : items? [] [] = some [] := by
    rw [items?]
    rfl
  have hitems : items? (lexemesOf p ++ []) (p.parameters ++ []) = some (itemsOf p ++ []) := items?_lexemesOf hp hend
  obtain ⟨d, c, q, hrun, hq⟩ := (Progress.reads_itemsOf hp).1 [] []
  simp only [List.append_nil] at hlexemes hitems hrun
  have hfinish : Progress.initial.run (itemsOf p) = some ⟨[], ⟨d, c, 0⟩, some q⟩ := hrun
  rw [decode?, Predicate.clause, String.toList_ofList, hlexemes]
  simp only [Option.bind_eq_bind, Option.bind_some, hitems, hfinish, Progress.finish?, hq]

/-- A field with quotes, dots and a word of the language, a range between the operands of "and", and a
    negated "or" on the right. -/
theorem decode?_clause_mixed :
    let p : Predicate := .join .and
      (.join .and (.leaf ⟨"a\" AND .?", .integer, .between (.integer 1) (.integer 2)⟩)
        (.leaf ⟨"", .text, .like "%"⟩))
      (.negation (.join .or .always (.leaf ⟨"OR", .uuid, .member false []⟩)))
    decode? p.clause.toList p.parameters = some (bare p) := by
  intro p
  exact decode?_clause rfl

end RowFilter.Clause
