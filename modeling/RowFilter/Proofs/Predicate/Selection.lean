import RowFilter.Predicate.Selector
import RowFilter.Proofs.Keyed
import RowFilter.Proofs.Predicate.Expansion

/-! Selecting rows with patterns that are prepared once. A selector finds the tokens of every pattern that stands
    anywhere in its predicate, so it keeps the rows of which the predicate is true when every pattern is prepared
    anew where it is used, and truths are joined as the least and the greatest of degrees. -/

namespace RowFilter

/-! ### Degrees of truth -/

/-- True counts one, false minus one, and unknown lies between them. -/
def Truth.degree : Truth → Int
  | some true => 1
  | none => 0
  | some false => -1

/-- How true a predicate is of a row, each pattern prepared where it stands: "and" is the least of two degrees, "or"
    the greatest, and "not" the opposite. -/
def Predicate.degree (row : Json) : Predicate → Int
  | always => 1
  | leaf c => (c.truth Pattern.matchText row).degree
  | join .and l r => min (l.degree row) (r.degree row)
  | join .or l r => max (l.degree row) (r.degree row)
  | negation p => -p.degree row
  | raw _ => 0

namespace Truth

theorem degree_and (t u : Truth) : (and t u).degree = min t.degree u.degree := by
  rcases t with _ | _ | _ <;> rcases u with _ | _ | _ <;> rfl

theorem degree_or (t u : Truth) : (or t u).degree = max t.degree u.degree := by
  rcases t with _ | _ | _ <;> rcases u with _ | _ | _ <;> rfl

theorem degree_not (t : Truth) : t.not.degree = -t.degree := by
  rcases t with _ | _ | _ <;> rfl

theorem degree_eq_one_iff {t : Truth} : t.degree = 1 ↔ t = some true := by
  rcases t with _ | _ | _ <;> decide

end Truth

theorem Criterion.truth_congr {like like' : String → String → Bool} {c : Criterion}
    (h : ∀ q, c.test = .like q → like q = like' q) {row : Json} : c.truth like row = c.truth like' row := by
  have htest : ∀ v, c.test.truth like v = c.test.truth like' v := by
    intro v
    cases ht : c.test with
    | like q => rw [Test.truth, Test.truth, h q ht]
    | _ => rfl
  by_cases hnull : ∃ b, c.test = .null b
  · obtain ⟨b, hb⟩ := hnull
    unfold truth
    rw [hb]
  · rw [truth_of_ne_null (not_exists.mp hnull), truth_of_ne_null (not_exists.mp hnull)]
    simp only [htest]

namespace Predicate

theorem degree_truth (p : Predicate) (row : Json) : (p.truth Pattern.matchText row).degree = p.degree row := by
  induction p with
  | always => rfl
  | leaf c => rfl
  | join c l r ihl ihr =>
    cases c with
    | and => rw [degree, ← ihl, ← ihr, ← Truth.degree_and, truth, Truth.combine]
    | or => rw [degree, ← ihl, ← ihr, ← Truth.degree_or, truth, Truth.combine]
  | negation p ih => rw [degree, ← ih, ← Truth.degree_not, truth]
  | raw sql => rfl

theorem holds_eq_degree (p : Predicate) (row : Json) : p.holds row = decide (p.degree row = 1) := by
  rw [holds, ← degree_truth, Bool.eq_iff_iff, beq_iff_eq, decide_eq_true_iff, Truth.degree_eq_one_iff]

/-! ### Patterns of a predicate -/

/-- The patterns of a predicate, from left to right. -/
def patterns (p : Predicate) : List String :=
  p.criteria.filterMap fun c => Selector.patternOf c.test

variable {like like' : String → String → Bool} {row : Json}

/-- The truth of a predicate rests on what is decided about its own patterns. -/
theorem truth_congr {p : Predicate} (h : ∀ q ∈ p.patterns, like q = like' q) :
    p.truth like row = p.truth like' row := by
  induction p with
  | always => rfl
  | leaf c => exact Criterion.truth_congr fun q hq => h q (by simp [patterns, criteria, Selector.patternOf, hq])
  | join c l r ihl ihr =>
    rw [patterns, criteria, List.filterMap_append] at h
    obtain ⟨hl, hr⟩ := List.forall_mem_append.mp h
    rw [truth, truth, ihl hl, ihr hr]
  | negation p ih => rw [truth, truth, ih h]
  | raw sql => rfl

/-- A pattern at any place of a predicate is one of its patterns. -/
theorem Context.mem_patterns_fill {c : Criterion} {q : String} (hc : c.test = .like q) (k : Context) :
    q ∈ (k.fill (leaf c)).patterns := by
  induction k with
  | place => simp [fill, patterns, criteria, Selector.patternOf, hc]
  | left d l r ih =>
    rw [fill, patterns, criteria, List.filterMap_append]
    exact List.mem_append_left _ ih
  | right d l r ih =>
    rw [fill, patterns, criteria, List.filterMap_append]
    exact List.mem_append_right _ ih
  | negation k ih => exact ih

end Predicate

namespace Selector

/-! ### The table of prepared patterns -/

variable {table : Keyed (List Pattern.Token)} {p q : String}

/-- One more pattern changes what is found for itself alone, and only if nothing was found before. -/
theorem find?_addPattern : Keyed.find? q (addPattern table p) =
    (Keyed.find? q table).or (if p = q then Pattern.prepare? q else none) := by
  unfold addPattern
  rw [Keyed.has_eq_isSome]
  by_cases hp : p = q
  · subst hp
    rw [if_pos rfl]
    cases hfound : Keyed.find? p table with
    | some ts => rw [Option.isSome_some, if_pos rfl, hfound, Option.some_or]
    | none =>
      rw [Option.isSome_none, if_neg Bool.false_ne_true, Option.none_or]
      cases hprepared : Pattern.prepare? p with
      | none => exact hfound
      | some ts =>
        dsimp only
        rw [Keyed.find?_append, hfound, Keyed.find?, if_pos rfl, Option.none_or]
  · rw [if_neg hp, Option.or_none]
    split
    · rfl
    · split
      · rw [Keyed.find?_append, Keyed.find?, if_neg hp, Keyed.find?, Option.or_none]
      · rfl

theorem nodup_addPattern (h : table.names.Nodup) : (Keyed.names (addPattern table p)).Nodup := by
  unfold addPattern
  rw [Keyed.has_eq_isSome]
  split
  · exact h
  · next hfound =>
    have hnone : Keyed.find? p table = none := by simpa using hfound
    split
    · rw [Keyed.names, List.map_append]
      refine List.nodup_append.mpr ⟨h, List.pairwise_singleton _ p, ?_⟩
      rintro name hname _ hp rfl
      obtain rfl := List.mem_singleton.mp hp
      exact Keyed.find?_eq_none_iff.mp hnone hname
    · exact h

theorem find?_foldl_addPattern (ps : List String) : Keyed.find? q (ps.foldl addPattern table) =
    (Keyed.find? q table).or (if q ∈ ps then Pattern.prepare? q else none) := by
  induction ps generalizing table with
  | nil => simp
  | cons p ps ih =>
    rw [List.foldl_cons, ih, find?_addPattern, Option.or_assoc]
    congr 1
    -- A pattern that comes again keeps its tokens, and preparing it again would give the same ones.
    by_cases hp : p = q
    · subst hp
      cases Pattern.prepare? p <;> simp
    · simp [hp, Ne.symm hp]

theorem nodup_foldl_addPattern (ps : List String) (h : table.names.Nodup) :
    (Keyed.names (ps.foldl addPattern table)).Nodup := by
  induction ps generalizing table with
  | nil => exact h
  | cons p ps ih => exact ih (nodup_addPattern h)

/-! ### Rows that are kept -/

/-- A pattern is found in the table exactly if the predicate has it and it can be prepared. -/
theorem find?_patterns (p : Predicate) (q : String) : Keyed.find? q (ofPredicate p).patterns =
    if q ∈ p.patterns then Pattern.prepare? q else none :=
  find?_foldl_addPattern p.patterns

theorem like_ofPredicate {p : Predicate} (h : q ∈ p.patterns) : (ofPredicate p).like q = Pattern.matchText q := by
  funext text
  rw [like, find?_patterns, if_pos h]
  rfl

theorem selects_ofPredicate (p : Predicate) (row : Json) : (ofPredicate p).selects row = p.holds row := by
  have htruth : p.truth (ofPredicate p).like row = p.truth Pattern.matchText row :=
    Predicate.truth_congr fun _ => like_ofPredicate
  rw [selects, Predicate.holds, ← htruth]
  rfl

theorem rows_ofPredicate (p : Predicate) (all : List Json) : (ofPredicate p).rows all = all.filter p.holds :=
  List.filter_congr fun row _ => selects_ofPredicate p row

/-- A selector keeps, in order and as often as they occur, the rows of which its predicate is true when every pattern
    is prepared anew where it stands; a pattern anywhere in the predicate finds its own tokens in the table, and no
    pattern is in the table twice. -/
theorem rows_eq_filter_degree (p : Predicate) :
    (∀ all, (ofPredicate p).rows all = all.filter fun row => p.degree row = 1) ∧
      (∀ (k : Predicate.Context) (c : Criterion) (q : String), k.fill (.leaf c) = p → c.test = .like q →
        Keyed.find? q (ofPredicate p).patterns = Pattern.prepare? q) ∧
      (Keyed.names (ofPredicate p).patterns).Nodup := by
  refine ⟨fun all => ?_, fun k c q hfill hc => ?_, ?_⟩
  · rw [rows_ofPredicate]
    exact List.filter_congr fun row _ => p.holds_eq_degree row
  · have hmem : q ∈ p.patterns := hfill ▸ k.mem_patterns_fill hc
    rw [find?_patterns, if_pos hmem]
  · exact nodup_foldl_addPattern p.patterns List.nodup_nil

/-- Two patterns that differ by a character, one of them twice, below a choice and a negation. -/
theorem rows_eq_filter_degree_shared :
    let like (q : String) : Predicate := .leaf ⟨"name", .text, .like q⟩
    let p : Predicate := .join .or (.join .and (like "%Jo%") (like "J%")) (.negation (like "%Jo%"))
    let row (name : String) : Json := .object [("name", .text name)]
    (ofPredicate p).rows [row "John", row "Bob Jo", .object [], row "Ann", row "John"] =
        [row "John", row "Ann", row "John"] ∧
      Keyed.find? "%Jo%" (ofPredicate p).patterns = some [.anyRun, .literal 'J', .literal 'o', .anyRun] := by
  intro like p row
  obtain ⟨hrows, hfind, -⟩ := rows_eq_filter_degree p
  refine ⟨?_, ?_⟩
  · rw [hrows]
    rfl
  · let negated : Predicate.Context := .right .or (.join .and (like "%Jo%") (like "J%")) (.negation .place)
    rw [hfind negated ⟨"name", .text, .like "%Jo%"⟩ "%Jo%" rfl rfl]
    rfl

end Selector

end RowFilter
