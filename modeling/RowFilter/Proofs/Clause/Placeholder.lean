import RowFilter.Proofs.Clause.Lexeme

/-! The placeholders of a clause. A clause has one of them for each parameter, in the order of the
    parameters, and nothing else of a literal or a pattern: predicates that differ in these alone have the
    same clause, and putting something for each parameter in place of its placeholder gives what would have
    been written with it there. Question marks in quoted names are no placeholders. -/

namespace RowFilter

/-! ### Predicates that differ in their literals -/

/-- The tests differ in their literals and patterns alone, of which they have as many. -/
inductive Test.Alike : Test → Test → Prop where
  | compare (c : Comparison) (v w : Literal) : Alike (.compare c v) (.compare c w)
  | like (p q : String) : Alike (.like p) (.like q)
  | member (positive : Bool) {vs ws : List Literal} (h : vs.length = ws.length) :
      Alike (.member positive vs) (.member positive ws)
  | between (low high low' high' : Literal) : Alike (.between low high) (.between low' high')
  | null (positive : Bool) : Alike (.null positive) (.null positive)

namespace Predicate

/-- The predicates have no conditions in SQL, and differ in the literals and patterns of their tests alone. -/
inductive Alike : Predicate → Predicate → Prop where
  | always : Alike .always .always
  | leaf {c d : Criterion} (hfield : c.field = d.field) (htest : c.test.Alike d.test) : Alike (.leaf c) (.leaf d)
  | join (c : Connective) {l r l' r' : Predicate} (hl : Alike l l') (hr : Alike r r') :
      Alike (.join c l r) (.join c l' r')
  | negation {p q : Predicate} (h : Alike p q) : Alike (.negation p) (.negation q)

end Predicate

theorem Test.Alike.sql_eq {t u : Test} (h : t.Alike u) : t.sql .bound = u.sql .bound := by
  cases h with
  | compare c v w => rfl
  | like p q => rfl
  | @member positive vs ws hlength =>
    have hliterals : vs.map SqlStyle.bound.literal = ws.map SqlStyle.bound.literal := by
      show vs.map (fun _ => ['?']) = ws.map (fun _ => ['?'])
      rw [List.map_const', List.map_const', hlength]
    exact congrArg (fun ls => (if positive then " IN (" else " NOT IN (").toList ++
      SqlStyle.joined [',', ' '] ls ++ [')']) hliterals
  | between low high low' high' => rfl
  | null positive => rfl

namespace Predicate

theorem Alike.connective?_eq {p q : Predicate} (h : p.Alike q) : p.connective? = q.connective? := by
  cases h <;> rfl

theorem Alike.needsParens_eq {p q : Predicate} (h : p.Alike q) (c : Connective) (right : Bool) :
    needsParens c right p = needsParens c right q := by
  rw [needsParens, h.connective?_eq, needsParens]

theorem Alike.sql_eq {p q : Predicate} (h : p.Alike q) : p.sql .bound = q.sql .bound := by
  induction h with
  | always => rfl
  | @leaf c d hfield htest =>
    show SqlStyle.bound.column c.field ++ c.test.sql .bound = SqlStyle.bound.column d.field ++ d.test.sql .bound
    rw [hfield, htest.sql_eq]
  | join c hl hr ihl ihr =>
    rw [sql, sql, hl.needsParens_eq, hr.needsParens_eq, ihl, ihr]
  | negation h ih => rw [sql, sql, ih]

end Predicate

/-! ### Filling in -/

namespace Clause

/-- What stands in a clause outside of quoted names; the mode tells whether it begins in one. A doubled quote
    ends its name and begins it again. -/
def outside : Bool → List Char → List Char
  | _, [] => []
  | quoted, c :: rest =>
    if c == '"' then outside (!quoted) rest
    else if quoted then outside quoted rest
    else c :: outside quoted rest

/-- The clause with something for each parameter in place of the placeholders outside of quoted names, if there
    are as many. -/
def fill (f : Literal → List Char) : Bool → List Char → List Literal → Option (List Char)
  | _, [], vs => if vs.isEmpty then some [] else none
  | quoted, c :: rest, vs =>
    if c == '"' then (c :: ·) <$> fill f (!quoted) rest vs
    else if c == '?' && !quoted then vs.head?.bind fun v => (f v ++ ·) <$> fill f quoted rest vs.tail
    else (c :: ·) <$> fill f quoted rest vs

/-- A clause can be filled in exactly if it has as many placeholders as there are parameters. -/
theorem fill_isSome_iff (f : Literal → List Char) (quoted : Bool) (cs : List Char) (vs : List Literal) :
    (fill f quoted cs vs).isSome = true ↔ (outside quoted cs).count '?' = vs.length := by
  induction cs generalizing quoted vs with
  | nil => cases vs <;> simp [fill, outside]
  | cons c cs ih =>
    rw [fill, outside]
    by_cases hquote : c = '"'
    · simp [hquote, ih]
    · cases quoted with
      | true => simp [hquote, ih]
      | false =>
        by_cases hmark : c = '?'
        · cases vs <;> simp [hmark, ih]
        · simp [hquote, hmark, ih, List.count_cons_of_ne]

/-- The character is neither a quote around names nor a placeholder. -/
def isFixed (c : Char) : Bool := c != '"' && c != '?'

section
variable {f : Literal → List Char}

theorem fill_quote (quoted : Bool) (rest : List Char) (vs : List Literal) :
    fill f quoted ('"' :: rest) vs = ('"' :: ·) <$> fill f (!quoted) rest vs :=
  rfl

theorem fill_placeholder (rest : List Char) (v : Literal) (vs : List Literal) :
    fill f false ('?' :: rest) (v :: vs) = (f v ++ ·) <$> fill f false rest vs :=
  rfl

theorem fill_fixed {c : Char} (hc : isFixed c = true) (rest : List Char) (vs : List Literal) :
    fill f false (c :: rest) vs = (c :: ·) <$> fill f false rest vs := by
  obtain ⟨hquote, hmark⟩ : c ≠ '"' ∧ c ≠ '?' := by simpa [isFixed] using hc
  simp [fill, hquote, hmark]

theorem fill_quoted {c : Char} (hc : c ≠ '"') (rest : List Char) (vs : List Literal) :
    fill f true (c :: rest) vs = (c :: ·) <$> fill f true rest vs := by
  simp [fill, hc]

/-- The parameters fill in a part of a clause that stands outside of quoted names, whatever follows. -/
def Fills (f : Literal → List Char) (cs : List Char) (vs : List Literal) (ds : List Char) : Prop :=
  ∀ rest more, fill f false (cs ++ rest) (vs ++ more) = (ds ++ ·) <$> fill f false rest more

theorem Fills.append {cs cs' : List Char} {vs vs' : List Literal} {ds ds' : List Char} (h : Fills f cs vs ds)
    (h' : Fills f cs' vs' ds') : Fills f (cs ++ cs') (vs ++ vs') (ds ++ ds') := by
  intro rest more
  rw [List.append_assoc, List.append_assoc, h, h', Functor.map_map]
  simp only [List.append_assoc]

theorem fills_nil : Fills f [] [] [] :=
  fun rest more => (id_map (fill f false rest more)).symm

theorem fills_placeholder (v : Literal) : Fills f ['?'] [v] (f v) :=
  fun rest more => fill_placeholder rest v more

theorem fills_fixed {cs : List Char} (h : cs.all isFixed = true) : Fills f cs [] cs := by
  induction cs with
  | nil => exact fills_nil
  | cons c cs ih =>
    rw [List.all_cons, Bool.and_eq_true] at h
    intro rest more
    rw [List.cons_append, fill_fixed h.1, ih h.2, Functor.map_map]
    rfl

theorem Fills.between {cs : List Char} {vs : List Literal} {ds front back : List Char} (h : Fills f cs vs ds)
    (hfront : front.all isFixed = true) (hback : back.all isFixed = true) :
    Fills f (front ++ cs ++ back) vs (front ++ ds ++ back) := by
  have hall := ((fills_fixed hfront).append h).append (fills_fixed hback)
  rwa [List.nil_append, List.append_nil] at hall

/-- A quoted name stays as it is, whatever stands in it. -/
theorem fills_quotedName (cs : List Char) : Fills f (SqlStyle.quotedName cs) [] (SqlStyle.quotedName cs) := by
  intro rest more
  have hinside : fill f true (cs.flatMap (fun c => if c == '"' then ['"', '"'] else [c]) ++ '"' :: rest) more =
      (cs.flatMap (fun c => if c == '"' then ['"', '"'] else [c]) ++ '"' :: ·) <$> fill f false rest more := by
    induction cs with
    | nil => exact fill_quote true rest more
    | cons c cs ih =>
      rw [List.flatMap_cons, List.append_assoc]
      by_cases hc : c = '"'
      · rw [hc, if_pos (beq_self_eq_true '"'), List.cons_append, List.singleton_append, fill_quote, Bool.not_true,
          fill_quote, Bool.not_false, ih, Functor.map_map, Functor.map_map]
        rfl
      · rw [if_neg (by simpa using hc), List.singleton_append, fill_quoted hc, ih, Functor.map_map]
        rfl
  rw [SqlStyle.quotedName, List.nil_append, List.cons_append, List.cons_append, List.append_assoc,
    List.singleton_append, fill_quote, Bool.not_false, hinside, Functor.map_map]
  simp

/-- What is filled in one after another, with a separator in between. -/
theorem fills_joined {α : Type} {g d : α → List Char} {vs : α → List Literal} {separator : List Char}
    (hseparator : separator.all isFixed = true) (h : ∀ a, Fills f (g a) (vs a) (d a)) (as : List α) :
    Fills f (SqlStyle.joined separator (as.map g)) (as.flatMap vs) (SqlStyle.joined separator (as.map d)) := by
  induction as with
  | nil => exact fills_nil
  | cons a as ih =>
    rw [List.flatMap_cons]
    cases as with
    | nil =>
      rw [List.flatMap_nil, List.append_nil]
      exact h a
    | cons b as =>
      have hall := ((h a).append (fills_fixed hseparator)).append ih
      rw [List.append_nil] at hall
      exact hall

theorem fills_column (field : String) : Fills f (SqlStyle.bound.column field) [] (SqlStyle.bound.column field) := by
  have hdot : ['.'].all isFixed = true := rfl
  have hnames := fills_joined (f := f) hdot fills_quotedName (Text.split '.' field.toList)
  rwa [List.flatMap_eq_nil_iff.mpr fun _ _ => rfl] at hnames

theorem fills_literals (vs : List Literal) : Fills f (SqlStyle.joined [',', ' '] (vs.map SqlStyle.bound.literal)) vs
    (SqlStyle.joined [',', ' '] (vs.map f)) := by
  have hcomma : [',', ' '].all isFixed = true := rfl
  have hall := fills_joined (f := f) hcomma fills_placeholder vs
  rwa [List.flatMap_singleton'] at hall

end

end Clause

/-- Clauses with something for each literal in its place, a pattern as the text that it is. -/
def SqlStyle.filled (f : Literal → List Char) : SqlStyle where
  column := SqlStyle.bound.column
  literal := f
  pattern s := f (.text s) ++ " ESCAPE '\\'".toList

namespace Clause

variable {f : Literal → List Char}

theorem fills_test (t : Test) : Fills f (t.sql .bound) t.parameters (t.sql (.filled f)) := by
  cases t with
  | compare c v =>
    have hsign : Fills f (' ' :: c.sign) [] (' ' :: c.sign) := fills_fixed (by cases c <;> rfl)
    have hblank : Fills f [' '] [] [' '] := fills_fixed rfl
    exact hsign.append (hblank.append (fills_placeholder v))
  | like p =>
    have hword : Fills f " LIKE ".toList [] " LIKE ".toList := fills_fixed rfl
    have hescape : Fills f " ESCAPE '\\'".toList [] " ESCAPE '\\'".toList := fills_fixed rfl
    exact hword.append ((fills_placeholder (.text p)).append hescape)
  | member positive vs =>
    have hfront : (if positive then " IN (" else " NOT IN (").toList.all isFixed = true := by cases positive <;> rfl
    exact (fills_literals vs).between hfront rfl
  | between low high =>
    have hword : Fills f " BETWEEN ".toList [] " BETWEEN ".toList := fills_fixed rfl
    have hand : Fills f " AND ".toList [] " AND ".toList := fills_fixed rfl
    exact ((hword.append (fills_placeholder low)).append hand).append (fills_placeholder high)
  | null positive => exact fills_fixed (by cases positive <;> rfl)

theorem Fills.enclosed {cs : List Char} {vs : List Literal} {ds : List Char} (h : Fills f cs vs ds) (b : Bool) :
    Fills f (if b then Predicate.parenthesized cs else cs) vs (if b then Predicate.parenthesized ds else ds) := by
  cases b with
  | false => exact h
  | true =>
    have hopen : ['('].all isFixed = true := rfl
    exact h.between hopen rfl

theorem fills_sql {p : Predicate} (hp : p.isPlain = true) :
    Fills f (p.sql .bound) p.parameters (p.sql (.filled f)) := by
  induction p with
  | always => exact fills_fixed rfl
  | leaf c =>
    have hparameters : (Predicate.leaf c).parameters = c.test.parameters := List.flatMap_singleton _ _
    rw [hparameters]
    exact (fills_column c.field).append (fills_test c.test)
  | join c l r ihl ihr =>
    obtain ⟨hl, hr⟩ := Bool.and_eq_true_iff.mp hp
    have hparameters : (Predicate.join c l r).parameters = l.parameters ++ ([] ++ r.parameters) := List.flatMap_append
    have hname : Fills f (' ' :: c.name.toList ++ [' ']) [] (' ' :: c.name.toList ++ [' ']) :=
      fills_fixed (by cases c <;> rfl)
    have hall := ((ihl hl).enclosed (Predicate.needsParens c false l)).append
      (hname.append ((ihr hr).enclosed (Predicate.needsParens c true r)))
    rw [hparameters, Predicate.sql, Predicate.sql]
    simpa using hall
  | negation p ih =>
    have hword : Fills f "NOT ".toList [] "NOT ".toList := fills_fixed rfl
    exact hword.append ((ih hp).enclosed true)
  | raw sql => cases hp

/-- Each parameter fills in its placeholder. -/
theorem fill_clause (f : Literal → List Char) {p : Predicate} (hp : p.isPlain = true) :
    fill f false p.clause.toList p.parameters = some (p.sql (.filled f)) := by
  have hall := fills_sql (f := f) hp [] []
  rw [List.append_nil, List.append_nil] at hall
  rw [Predicate.clause, String.toList_ofList, hall]
  simp [fill]

end Clause

/-- No literal and no pattern of a predicate reaches its clause. Another predicate that differs from it in these
    alone has the same clause; the clause has a placeholder outside of its quoted names for each parameter; and
    the parameters are the literals of the criteria from left to right, a pattern as a text, in the order of
    their placeholders: whatever is written for them there stands where they would stand in place. -/
theorem Predicate.clause_separates {p : Predicate} (hp : p.isPlain = true) :
    (∀ q, p.Alike q → q.clause = p.clause) ∧
      (Clause.outside false p.clause.toList).count '?' = p.parameters.length ∧
      p.parameters = p.criteria.flatMap (fun c => match c.test with
        | .like s => [.text s]
        | t => t.literals) ∧
      ∀ f, Clause.fill f false p.clause.toList p.parameters = some (p.sql (.filled f)) := by
  refine ⟨?_, ?_, ?_, fun f => Clause.fill_clause f hp⟩
  · intro q h
    rw [clause, clause, h.sql_eq]
  · refine (Clause.fill_isSome_iff Literal.chars false _ _).mp ?_
    rw [Clause.fill_clause _ hp]
    rfl
  · refine congrArg p.criteria.flatMap (funext fun c => ?_)
    cases c.test <;> rfl

/-- A name with a question mark and a quote in it, a pattern with both, and a list inside a negation. -/
theorem Predicate.clause_separates_quoted :
    let p : Predicate := .join .or (.leaf ⟨"a?\".b", .text, .like "?\"%"⟩)
      (.negation (.join .and (.leaf ⟨"n", .integer, .member false [.integer 1, .integer 2]⟩) .always))
    let q : Predicate := .join .or (.leaf ⟨"a?\".b", .text, .like ""⟩)
      (.negation (.join .and (.leaf ⟨"n", .float, .member false [.text "' OR TRUE", .boolean true]⟩) .always))
    p.isPlain = true ∧ p.Alike q ∧ q.clause = p.clause ∧
      (Clause.outside false p.clause.toList).count '?' = p.parameters.length := by
  intro p q
  have halike : p.Alike q :=
    .join .or (.leaf rfl (.like _ _)) (.negation (.join .and (.leaf rfl (.member false rfl)) .always))
  obtain ⟨hclause, hcount, -⟩ := clause_separates (p := p) rfl
  exact ⟨rfl, halike, hclause q halike, hcount⟩

end RowFilter
