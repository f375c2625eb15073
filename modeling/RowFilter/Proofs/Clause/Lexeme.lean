import RowFilter.Predicate.Sql
import RowFilter.Proofs.Number.Digits

/-! The lexemes of a clause: names and texts between quotes, runs of letters and of comparison signs, and
    single marks. Runs are as long as possible, and a doubled quote stands for one that does not end its
    text. The clause of a predicate has the lexemes that are meant by it, whatever its names are. -/

namespace RowFilter

/-- The predicate has no conditions in SQL. -/
def Predicate.isPlain : Predicate → Bool
  | .always | .leaf _ => true
  | .join _ l r => l.isPlain && r.isPlain
  | .negation p => p.isPlain
  | .raw _ => false

namespace Clause

/-! ### Lexemes -/

/-- A lexeme of a clause. -/
inductive Lexeme where
  /-- A name or a text, by the quote around it. -/
  | quoted (quote : Char) (cs : List Char)
  /-- Letters, or signs of a comparison. -/
  | run (cs : List Char)
  | mark (c : Char)
  deriving DecidableEq, Repr

/-- What a run is made of. -/
inductive RunKind where
  | letters
  | signs
  deriving DecidableEq, Repr

namespace RunKind

/-- The character belongs to runs of the kind. -/
def has : RunKind → Char → Bool
  | letters, c => c.isAlpha
  | signs, c => c == '<' || c == '=' || c == '>'

end RunKind

/-- How far a lexeme has been read. -/
inductive Mode where
  | between
  | run (k : RunKind) (cs : List Char)
  | inside (quote : Char) (cs : List Char)
  /-- A quote behind a text between quotes: its end, unless another one follows. -/
  | closing (quote : Char) (cs : List Char)
  deriving DecidableEq, Repr

namespace Mode

/-- What a character begins that continues nothing. -/
def begin (c : Char) : List Lexeme × Mode :=
  if c == ' ' then ([], between)
  else if c == '"' || c == '\'' then ([], inside c [])
  else if RunKind.letters.has c then ([], run .letters [c])
  else if RunKind.signs.has c then ([], run .signs [c])
  else ([.mark c], between)

/-- The lexemes that a character completes, and how far the next one has been read. -/
def next : Mode → Char → List Lexeme × Mode
  | between, c => begin c
  | run k cs, c =>
    if k.has c then ([], run k (cs ++ [c])) else (.run cs :: (begin c).1, (begin c).2)
  | inside q cs, c => if c == q then ([], closing q cs) else ([], inside q (cs ++ [c]))
  | closing q cs, c =>
    if c == q then ([], inside q (cs ++ [c])) else (.quoted q cs :: (begin c).1, (begin c).2)

/-- The lexemes that the end of the clause completes. -/
def finish? : Mode → Option (List Lexeme)
  | between => some []
  | run _ cs => some [.run cs]
  | inside _ _ => none
  | closing q cs => some [.quoted q cs]

end Mode

/-- The lexemes of the rest of a clause. -/
def lexemes? : Mode → List Char → Option (List Lexeme)
  | m, [] => m.finish?
  | m, c :: rest => ((m.next c).1 ++ ·) <$> lexemes? (m.next c).2 rest

/-! ### Single lexemes -/

section
variable {rest : List Char} {ls : List Lexeme}

theorem lexemes?_cons (m : Mode) (c : Char) :
    lexemes? m (c :: rest) = ((m.next c).1 ++ ·) <$> lexemes? (m.next c).2 rest :=
  rfl

theorem lexemes?_blank (h : lexemes? .between rest = some ls) : lexemes? .between (' ' :: rest) = some ls := by
  have hnext : Mode.between.next ' ' = ([], .between) := rfl
  rw [lexemes?_cons, hnext, h]
  rfl

theorem lexemes?_mark {c : Char} (hc : Mode.begin c = ([.mark c], .between)) (h : lexemes? .between rest = some ls) :
    lexemes? .between (c :: rest) = some (.mark c :: ls) := by
  rw [lexemes?_cons, Mode.next, hc, h]
  rfl

theorem lexemes?_run_of_notLed {k : RunKind} {cs : List Char} (hr : NotLed k.has rest)
    (h : lexemes? .between rest = some ls) : lexemes? (.run k cs) rest = some (.run cs :: ls) := by
  cases rest with
  | nil =>
    cases h
    rfl
  | cons c rest =>
    have hnext : (Mode.run k cs).next c = (.run cs :: (Mode.begin c).1, (Mode.begin c).2) :=
      if_neg (Bool.eq_false_iff.mp (notLed_cons.mp hr))
    obtain ⟨ls', h', rfl⟩ := Option.map_eq_some_iff.mp h
    rw [lexemes?_cons, hnext]
    exact Option.map_eq_some_iff.mpr ⟨ls', h', rfl⟩

/-- A run is read up to the first character that does not belong to it. -/
theorem lexemes?_run_append {k : RunKind} {cs ds : List Char} (hd : ∀ c ∈ ds, k.has c = true)
    (hr : NotLed k.has rest) (h : lexemes? .between rest = some ls) :
    lexemes? (.run k cs) (ds ++ rest) = some (.run (cs ++ ds) :: ls) := by
  induction ds generalizing cs with
  | nil => rw [List.nil_append, lexemes?_run_of_notLed hr h, List.append_nil]
  | cons d ds ih =>
    obtain ⟨hd, hds⟩ := List.forall_mem_cons.mp hd
    rw [List.cons_append, lexemes?_cons, Mode.next, if_pos hd, ih hds, List.append_assoc, List.singleton_append]
    rfl

theorem begin_of_isAlpha {c : Char} (hc : c.isAlpha = true) : Mode.begin c = ([], .run .letters [c]) := by
  have hne : ∀ d : Char, d.isAlpha = false → (c == d) = false := fun d hd => by
    refine beq_eq_false_iff_ne.mpr ?_
    rintro rfl
    rw [hc] at hd
    cases hd
  rw [Mode.begin, hne ' ' rfl, hne '"' rfl, hne '\'' rfl, RunKind.has, hc]
  rfl

/-- A word is read if no letter follows it. -/
theorem lexemes?_word {cs : List Char} (hne : cs ≠ []) (hc : cs.all RunKind.letters.has = true)
    (hr : NotLed RunKind.letters.has rest) (h : lexemes? .between rest = some ls) :
    lexemes? .between (cs ++ rest) = some (.run cs :: ls) := by
  obtain ⟨c, cs, rfl⟩ := List.exists_cons_of_ne_nil hne
  rw [List.all_cons, Bool.and_eq_true, List.all_eq_true] at hc
  rw [List.cons_append, lexemes?_cons, Mode.next, begin_of_isAlpha hc.1, lexemes?_run_append hc.2 hr h]
  rfl

/-- The sign of a comparison is read if a blank follows it. -/
theorem lexemes?_sign (c : Comparison) (h : lexemes? .between rest = some ls) :
    lexemes? .between (c.sign ++ ' ' :: rest) = some (.run c.sign :: ls) := by
  have hr : NotLed RunKind.signs.has (' ' :: rest) := notLed_cons.mpr rfl
  have h' := lexemes?_blank h
  have hbegin : ∀ d ds, c.sign = d :: ds →
      Mode.begin d = ([], .run .signs [d]) ∧ ∀ e ∈ ds, RunKind.signs.has e = true := by
    cases c <;> rintro _ _ ⟨⟩ <;> exact ⟨rfl, List.all_eq_true.mp rfl⟩
  obtain ⟨d, ds, hsign⟩ := List.exists_cons_of_ne_nil (l := c.sign) (by cases c <;> exact List.cons_ne_nil _ _)
  obtain ⟨hd, hds⟩ := hbegin d ds hsign
  rw [hsign, List.cons_append, lexemes?_cons, Mode.next, hd, lexemes?_run_append hds hr h']
  rfl

theorem lexemes?_closing {q : Char} {cs : List Char} (hr : NotLed (· == q) rest)
    (h : lexemes? .between rest = some ls) : lexemes? (.closing q cs) rest = some (.quoted q cs :: ls) := by
  cases rest with
  | nil =>
    cases h
    rfl
  | cons c rest =>
    have hnext : (Mode.closing q cs).next c = (.quoted q cs :: (Mode.begin c).1, (Mode.begin c).2) :=
      if_neg (Bool.eq_false_iff.mp (notLed_cons.mp hr))
    obtain ⟨ls', h', rfl⟩ := Option.map_eq_some_iff.mp h
    rw [lexemes?_cons, hnext]
    exact Option.map_eq_some_iff.mpr ⟨ls', h', rfl⟩

/-- A text between quotes is read to its end, the quotes in it being doubled. -/
theorem lexemes?_inside {q : Char} {cs ds : List Char} (hr : NotLed (· == q) rest)
    (h : lexemes? .between rest = some ls) :
    lexemes? (.inside q cs) (ds.flatMap (fun c => if c == q then [q, q] else [c]) ++ q :: rest) =
      some (.quoted q (cs ++ ds) :: ls) := by
  induction ds generalizing cs with
  | nil =>
    rw [List.flatMap_nil, List.nil_append, lexemes?_cons, Mode.next, if_pos (beq_self_eq_true q), lexemes?_closing hr h,
      List.append_nil]
    rfl
  | cons d ds ih =>
    rw [List.flatMap_cons, List.append_assoc]
    cases hd : d == q with
    | true =>
      obtain rfl := beq_iff_eq.mp hd
      rw [if_pos rfl, List.cons_append, List.singleton_append, lexemes?_cons, Mode.next, if_pos hd, lexemes?_cons,
        Mode.next, if_pos hd, ih, List.append_assoc, List.singleton_append]
      rfl
    | false =>
      rw [if_neg Bool.false_ne_true, List.singleton_append, lexemes?_cons, Mode.next, if_neg (Bool.eq_false_iff.mp hd),
        ih, List.append_assoc, List.singleton_append]
      rfl

/-- A name between quotes is read to its end, whatever stands in it. -/
theorem lexemes?_quotedName (cs : List Char) (hr : NotLed (· == '"') rest) (h : lexemes? .between rest = some ls) :
    lexemes? .between (SqlStyle.quotedName cs ++ rest) = some (.quoted '"' cs :: ls) := by
  have hbegin : Mode.between.next '"' = ([], .inside '"' []) := rfl
  rw [SqlStyle.quotedName, List.cons_append, List.cons_append, List.append_assoc, lexemes?_cons, hbegin,
    List.singleton_append, lexemes?_inside hr h]
  rfl

end

/-! ### The lexemes of a predicate -/

/-- The lexemes of names with dots between them. -/
def nameLexemes : List (List Char) → List Lexeme
  | [] => []
  | [cs] => [.quoted '"' cs]
  | cs :: rest => .quoted '"' cs :: .mark '.' :: nameLexemes rest

/-- Placeholders with commas between them, one for each literal. -/
def placeholders : List Literal → List Lexeme
  | [] => []
  | [_] => [.mark '?']
  | _ :: rest => .mark '?' :: .mark ',' :: placeholders rest

/-- A word in capitals. -/
def keyword (s : String) : Lexeme :=
  .run s.toList

/-- The word in front of a negated test. -/
def negated (positive : Bool) : List Lexeme :=
  if positive then [] else [keyword "NOT"]

/-- The lexemes of a test. -/
def testLexemes : Test → List Lexeme
  | .compare c _ => [.run c.sign, .mark '?']
  | .like _ => [keyword "LIKE", .mark '?', keyword "ESCAPE", .quoted '\'' ['\\']]
  | .member positive vs => negated positive ++ keyword "IN" :: .mark '(' :: (placeholders vs ++ [.mark ')'])
  | .between _ _ => [keyword "BETWEEN", .mark '?', keyword "AND", .mark '?']
  | .null positive => keyword "IS" :: (negated positive ++ [keyword "NULL"])

/-- Lexemes between parentheses. -/
def enclosed (ls : List Lexeme) : List Lexeme :=
  .mark '(' :: (ls ++ [.mark ')'])

/-- The lexemes of a predicate without conditions in SQL. -/
def lexemesOf : Predicate → List Lexeme
  | .always => [keyword "TRUE"]
  | .leaf c => nameLexemes (Text.split '.' c.field.toList) ++ testLexemes c.test
  | .join c l r =>
    (if Predicate.needsParens c false l then enclosed (lexemesOf l) else lexemesOf l) ++
      keyword c.name :: (if Predicate.needsParens c true r then enclosed (lexemesOf r) else lexemesOf r)
  | .negation p => keyword "NOT" :: enclosed (lexemesOf p)
  | .raw _ => []

/-- What can follow a predicate in a clause: a blank, a parenthesis that closes, or nothing. -/
def Follows (rest : List Char) : Prop :=
  ∀ c ∈ rest.head?, c = ' ' ∨ c = ')'

theorem Follows.notLed {rest : List Char} (h : Follows rest) {p : Char → Bool} (hblank : p ' ' = false)
    (hclose : p ')' = false) : NotLed p rest := by
  intro c hc
  rcases h c hc with rfl | rfl
  · exact hblank
  · exact hclose

section
variable {rest : List Char} {ls : List Lexeme}

theorem lexemes?_names {parts : List (List Char)} (hne : parts ≠ []) (hr : NotLed (fun c => c == '"') rest)
    (h : lexemes? .between rest = some ls) :
    lexemes? .between (SqlStyle.joined ['.'] (parts.map SqlStyle.quotedName) ++ rest) =
      some (nameLexemes parts ++ ls) := by
  induction parts with
  | nil => exact absurd rfl hne
  | cons cs parts ih =>
    cases parts with
    | nil => exact lexemes?_quotedName cs hr h
    | cons ds parts =>
      have hrest := lexemes?_mark (c := '.') rfl (ih (List.cons_ne_nil ds parts))
      rw [List.map_cons, List.map_cons, SqlStyle.joined, List.append_assoc, List.append_assoc, ← List.map_cons]
      · exact lexemes?_quotedName cs (notLed_cons.mpr rfl) hrest
      · exact List.cons_ne_nil _ _

theorem lexemes?_placeholders (vs : List Literal) (h : lexemes? .between rest = some ls) :
    lexemes? .between (SqlStyle.joined [',', ' '] (vs.map SqlStyle.bound.literal) ++ rest) =
      some (placeholders vs ++ ls) := by
  induction vs with
  | nil => exact h
  | cons v vs ih =>
    cases vs with
    | nil => exact lexemes?_mark rfl h
    | cons w vs => exact lexemes?_mark rfl (lexemes?_mark rfl (lexemes?_blank ih))

theorem lexemes?_keyword (s : String) (hs : s.toList ≠ []) (hc : s.toList.all RunKind.letters.has = true)
    (h : lexemes? .between rest = some ls) : lexemes? .between (s.toList ++ ' ' :: rest) = some (keyword s :: ls) :=
  lexemes?_word hs hc (notLed_cons.mpr rfl) (lexemes?_blank h)

theorem lexemes?_test (t : Test) (hr : Follows rest) (h : lexemes? .between rest = some ls) :
    lexemes? .between (t.sql .bound ++ rest) = some (testLexemes t ++ ls) := by
  have hword : NotLed RunKind.letters.has rest := hr.notLed rfl rfl
  cases t with
  | compare c v =>
    have htext : (Test.compare c v).sql .bound ++ rest = ' ' :: (c.sign ++ ' ' :: '?' :: rest) :=
      List.append_assoc (' ' :: c.sign) [' ', '?'] rest
    rw [htext]
    exact lexemes?_blank (lexemes?_sign c (lexemes?_mark rfl h))
  | like p =>
    have htext : (Test.like p).sql .bound ++ rest =
        ' ' :: ("LIKE".toList ++ ' ' :: '?' :: ' ' :: ("ESCAPE".toList ++ ' ' :: '\'' :: '\\' :: '\'' :: rest)) := rfl
    have hescape : lexemes? .between ('\'' :: '\\' :: '\'' :: rest) = some (.quoted '\'' ['\\'] :: ls) := by
      have hclosing : lexemes? (.closing '\'' ['\\']) rest = some (.quoted '\'' ['\\'] :: ls) :=
        lexemes?_closing (hr.notLed rfl rfl) h
      have hnext : Mode.between.next '\'' = ([], .inside '\'' []) := rfl
      have hnext' : (Mode.inside '\'' []).next '\\' = ([], .inside '\'' ['\\']) := rfl
      have hnext'' : (Mode.inside '\'' ['\\']).next '\'' = ([], .closing '\'' ['\\']) := rfl
      rw [lexemes?_cons, hnext, lexemes?_cons, hnext', lexemes?_cons, hnext'', hclosing]
      rfl
    rw [htext]
    exact lexemes?_blank (lexemes?_keyword "LIKE" (by decide) (by decide)
      (lexemes?_mark rfl (lexemes?_blank (lexemes?_keyword "ESCAPE" (by decide) (by decide) hescape))))
  | member positive vs =>
    have hin : lexemes? .between ("IN".toList ++ ' ' :: '(' ::
        (SqlStyle.joined [',', ' '] (vs.map SqlStyle.bound.literal) ++ ')' :: rest)) =
        some (keyword "IN" :: .mark '(' :: (placeholders vs ++ .mark ')' :: ls)) :=
      lexemes?_keyword "IN" (by decide) (by decide)
        (lexemes?_mark rfl (lexemes?_placeholders vs (lexemes?_mark rfl h)))
    have htext : ∀ front : List Char,
        front ++ SqlStyle.joined [',', ' '] (vs.map SqlStyle.bound.literal) ++ [')'] ++ rest =
        front ++ (SqlStyle.joined [',', ' '] (vs.map SqlStyle.bound.literal) ++ ')' :: rest) := by
      simp
    rw [testLexemes, List.append_assoc, List.cons_append, List.cons_append, List.append_assoc, List.singleton_append]
    cases positive with
    | true => exact (congrArg _ (htext " IN (".toList)).trans (lexemes?_blank hin)
    | false =>
      exact (congrArg _ (htext " NOT IN (".toList)).trans
        (lexemes?_blank (lexemes?_keyword "NOT" (by decide) (by decide) hin))
  | between low high =>
    have htext : (Test.between low high).sql .bound ++ rest =
        ' ' :: ("BETWEEN".toList ++ ' ' :: '?' :: ' ' :: ("AND".toList ++ ' ' :: '?' :: rest)) := rfl
    rw [htext]
    exact lexemes?_blank (lexemes?_keyword "BETWEEN" (by decide) (by decide)
      (lexemes?_mark rfl (lexemes?_blank (lexemes?_keyword "AND" (by decide) (by decide) (lexemes?_mark rfl h)))))
  | null positive =>
    have hnull : lexemes? .between ("NULL".toList ++ rest) = some (keyword "NULL" :: ls) :=
      lexemes?_word (by decide) (by decide) hword h
    cases positive with
    | true => exact lexemes?_blank (lexemes?_keyword "IS" (by decide) (by decide) hnull)
    | false =>
      exact lexemes?_blank (lexemes?_keyword "IS" (by decide) (by decide)
        (lexemes?_keyword "NOT" (by decide) (by decide) hnull))

theorem exists_sql_eq_cons (style : SqlStyle) (t : Test) : ∃ cs, t.sql style = ' ' :: cs := by
  cases t with
  | member positive vs => cases positive <;> exact ⟨_, rfl⟩
  | null positive => cases positive <;> exact ⟨_, rfl⟩
  | _ => exact ⟨_, rfl⟩

theorem lexemes?_enclosed {p : Predicate} (h : lexemes? .between rest = some ls)
    (hp : ∀ {rest ls}, Follows rest → lexemes? .between rest = some ls →
      lexemes? .between (p.sql .bound ++ rest) = some (lexemesOf p ++ ls)) :
    lexemes? .between (Predicate.parenthesized (p.sql .bound) ++ rest) = some (enclosed (lexemesOf p) ++ ls) := by
  have hclose : Follows (')' :: rest) := fun c hc => .inr (Option.mem_some.mp hc).symm
  have hinner := lexemes?_mark (c := '(') rfl (hp hclose (lexemes?_mark rfl h))
  simpa [Predicate.parenthesized, enclosed] using hinner

theorem lexemes?_operand {p : Predicate} (b : Bool) (hr : Follows rest) (h : lexemes? .between rest = some ls)
    (hp : ∀ {rest ls}, Follows rest → lexemes? .between rest = some ls →
      lexemes? .between (p.sql .bound ++ rest) = some (lexemesOf p ++ ls)) :
    lexemes? .between ((if b then Predicate.parenthesized (p.sql .bound) else p.sql .bound) ++ rest) =
      some ((if b then enclosed (lexemesOf p) else lexemesOf p) ++ ls) := by
  cases b with
  | false => exact hp hr h
  | true => exact lexemes?_enclosed h hp

/-- The clause of a predicate has its lexemes, and nothing that follows it is taken for a part of it. -/
theorem lexemes?_sql {p : Predicate} (hp : p.isPlain = true) (hr : Follows rest)
    (h : lexemes? .between rest = some ls) :
    lexemes? .between (p.sql .bound ++ rest) = some (lexemesOf p ++ ls) := by
  induction p generalizing rest ls with
  | always => exact lexemes?_word (by decide) (by decide) (hr.notLed rfl rfl) h
  | leaf c =>
    have htest := lexemes?_test c.test hr h
    have hnotLed : NotLed (fun c => c == '"') (c.test.sql .bound ++ rest) := by
      obtain ⟨cs, hcs⟩ := exists_sql_eq_cons .bound c.test
      rw [hcs]
      exact notLed_cons.mpr rfl
    have hnames := lexemes?_names (Text.split_ne_nil '.' c.field.toList) hnotLed htest
    rw [lexemesOf, List.append_assoc, ← hnames]
    exact congrArg _ (List.append_assoc _ _ _)
  | join c l r ihl ihr =>
    obtain ⟨hl, hr'⟩ := Bool.and_eq_true_iff.mp hp
    have hright := lexemes?_operand (Predicate.needsParens c true r) hr h (ihr hr')
    have hname : lexemes? .between (' ' :: (c.name.toList ++ ' ' ::
        ((if Predicate.needsParens c true r then Predicate.parenthesized (r.sql .bound) else r.sql .bound) ++ rest))) =
        some (keyword c.name ::
          ((if Predicate.needsParens c true r then enclosed (lexemesOf r) else lexemesOf r) ++ ls)) :=
      lexemes?_blank (lexemes?_keyword c.name (by cases c <;> decide) (by cases c <;> decide) hright)
    have hblank : Follows (' ' :: (c.name.toList ++ ' ' ::
        ((if Predicate.needsParens c true r then Predicate.parenthesized (r.sql .bound) else r.sql .bound) ++ rest))) :=
      fun d hd => .inl (Option.mem_some.mp hd).symm
    have hleft := lexemes?_operand (Predicate.needsParens c false l) hblank hname (ihl hl)
    have htext : ∀ left right : List Char, left ++ ' ' :: c.name.toList ++ ' ' :: right ++ rest =
        left ++ ' ' :: (c.name.toList ++ ' ' :: (right ++ rest)) := by simp
    rw [lexemesOf, List.append_assoc, List.cons_append, ← hleft]
    exact congrArg _ (htext _ _)
  | negation p ih =>
    have hnot := lexemes?_keyword "NOT" (by decide) (by decide) (lexemes?_enclosed h (ih hp))
    rw [lexemesOf, List.cons_append, ← hnot]
    exact congrArg _ (List.append_assoc _ _ _)
  | raw sql => cases hp

end

end Clause

end RowFilter
