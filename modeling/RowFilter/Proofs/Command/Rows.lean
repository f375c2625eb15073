import RowFilter.Proofs.Command.Effects
import RowFilter.Proofs.Json.Lines
import RowFilter.Proofs.Predicate.Selection

/-! What a run prints about rows. A run that applies a filter prints the rows that meet its predicate, in their order,
    each on a line that is read as the row, and tells their count and that of all rows; or it prints one document
    that is read as the same rows with the same counts. -/

namespace RowFilter

open FileTree Command Attempt

/-- What is printed shows these rows out of so many. -/
structure Printed.ShowsRows (o : Options) (kept : List Json) (total : Nat) (p : Printed) : Prop where
  /-- There is a line for each row, in order, that is read as the row, and nothing stands behind the last one. -/
  lines : o.json = false → ∃ lines, Text.split '\n' p.out.toList = lines ++ [[]] ∧
    List.Forall₂ (fun line row => Json.parse (String.ofList line) = some row) lines kept
  /-- The counts are told apart from the lines, unless the run is quiet. -/
  summary : o.json = false → p.err = if o.quiet then "" else
    toString kept.length ++ (if kept.length = 1 then " row of " else " rows of ") ++ toString total ++ " matched\n"
  /-- The document is read with the rows and both counts, which are numbers of 64 bits. -/
  document : o.json = true → total < 2 ^ 64 → Json.parse p.out = some (.object
    [("matched", .number (.integer kept.length)), ("rows", .array kept), ("total", .number (.integer total))])

/-! ### Printing rows -/

theorem Report.toList_rowLines (rows : List Json) :
    (rowLines rows).toList = rows.flatMap fun j => j.compactChars ++ ['\n'] := by
  have hline : ∀ j : Json, (Style.line j.compact).toList = j.compactChars ++ ['\n'] := by
    intro j
    rw [Style.line, String.toList_append, Json.compact, String.toList_ofList]
    rfl
  rw [rowLines, String.toList_join, List.flatMap_map]
  simp only [hline]

theorem Report.rowSummary_eq (matched total : Nat) : rowSummary matched total =
    toString matched ++ (if matched = 1 then " row of " else " rows of ") ++ toString total ++ " matched\n" := by
  rw [rowSummary, Style.counted, Style.line]
  split <;> simp [String.append_assoc]

theorem Report.allNumbers_count {n : Nat} (h : n < 2 ^ 64) : (count n).AllNumbers JsonNumber.IsKept := by
  refine .number ⟨?_, ?_⟩
  · rw [JsonNumber.minSigned]
    omega
  · rw [JsonNumber.maxUnsigned]
    omega

/-- The document of some rows is read with its members in order. -/
theorem Report.parse_rowsJson {kept : List Json} {total : Nat} (hkept : (Json.array kept).IsKept)
    (hdepth : (Json.array kept).depth ≤ 126) (hmatched : kept.length < 2 ^ 64) (htotal : total < 2 ^ 64) :
    Json.parse (rowsJson kept total) =
      some (.object [("matched", count kept.length), ("rows", .array kept), ("total", count total)]) := by
  have hnumbers : Json.AllNumbers JsonNumber.IsKept
      (.object [("matched", count kept.length), ("total", count total), ("rows", .array kept)]) := by
    refine .object (List.forall_mem_cons.mpr ⟨allNumbers_count hmatched, List.forall_mem_cons.mpr ⟨?_, ?_⟩⟩)
    · exact allNumbers_count htotal
    · exact List.forall_mem_singleton.mpr hkept.numbers
  have hbound : Json.depth (.object [("matched", count kept.length), ("total", count total), ("rows", .array kept)]) ≤
      Json.maxDepth := by
    refine Nat.succ_le_succ (Json.depthMembers_le_iff.mpr (List.forall_mem_cons.mpr ⟨Nat.zero_le _, ?_⟩))
    exact List.forall_mem_cons.mpr ⟨Nat.zero_le _, List.forall_mem_singleton.mpr hdepth⟩
  have hitems : Json.canonicalItems kept = kept := Json.array.inj hkept.canonical
  rw [rowsJson, document, Style.line, Json.parse_pretty hnumbers hbound]
  simp (disch := decide) only [Json.canonical, Json.canonicalMembers, Json.canonicalMember, count, hitems, Keyed.sorted,
    List.foldl, Keyed.insert_nil, Keyed.insert_of_lt, Keyed.insert_of_gt]

namespace Command

variable {o : Options} {p : Predicate} {rows : List Json}

/-- The rows that meet a predicate are printed so that they can be read back. -/
theorem showsRows_printRows (hrows : (Json.array rows).IsKept) (hdepth : (Json.array rows).depth ≤ 126) :
    (printRows o p rows).ShowsRows o (rows.filter p.holds) rows.length := by
  have hselected : (Selector.ofPredicate p).rows rows = rows.filter p.holds := Selector.rows_ofPredicate p rows
  have hkept : ∀ row ∈ rows.filter p.holds, row.IsKept ∧ row.depth ≤ 125 := by
    intro row hrow
    have hmem := List.mem_of_mem_filter hrow
    exact ⟨Json.isKept_array.mp hrows row hmem, Json.depthItems_le_iff.mp (Nat.le_of_succ_le_succ hdepth) row hmem⟩
  unfold printRows
  rw [hselected]
  refine ⟨fun hjson => ?_, fun hjson => ?_, fun hjson hcount => ?_⟩
  · rw [if_neg (Bool.eq_false_iff.mp hjson)]
    refine ⟨(rows.filter p.holds).map Json.compactChars, ?_, ?_⟩
    · rw [Report.toList_rowLines, Json.split_lines]
    · refine Json.forall₂_parse_compactChars fun row hrow => ?_
      obtain ⟨hrow, hdepth⟩ := hkept row hrow
      exact ⟨hrow, Nat.le_trans hdepth (by decide)⟩
  · rw [if_neg (Bool.eq_false_iff.mp hjson), Report.rowSummary_eq]
  · rw [if_pos hjson]
    refine Report.parse_rowsJson (Json.isKept_array.mpr fun row hrow => (hkept row hrow).1) ?_ ?_ hcount
    · exact Nat.succ_le_succ (Json.depthItems_le_iff.mpr fun row hrow => (hkept row hrow).2)
    · exact Nat.lt_of_le_of_lt (List.length_filter_le _ _) hcount

end Command

/-! ### Runs -/

namespace Run

/-- What the run reads where rows are named: standard input for a dash, and otherwise the file at the path. -/
def rowsText? (r : Run) (t : FileTree) (path : String) : Option String :=
  if isInput path then r.input
  else if r.permissions.search path && r.permissions.read path then t.read path else none

/-- The run is asked to apply a filter to the rows of a text, and finds the text and a configuration. -/
structure Applies (r : Run) (t : FileTree) (o : Options) (c : Config) (s : Selection) (text : String) : Prop where
  asked : ∃ path, Invocation.read r.environment r.arguments = .ok ⟨o, .apply s path⟩ ∧ r.rowsText? t path = some text
  configured : on t (configPath r.environment >>= loadConfig (permitted r.permissions r.input)) = (.ok c, t)

variable {r : Run} {t : FileTree} {o : Options} {c : Config} {s : Selection} {text : String}

/-- A configuration is found in a file that may be read. -/
theorem configured_of_read {path content : String} (hpath : r.environment.configPath? = some path)
    (hpermitted : (r.permissions.search path && r.permissions.read path) = true) (hcontent : t.read path = some content)
    (hc : Config.read content = .ok c) :
    on t (configPath r.environment >>= loadConfig (permitted r.permissions r.input)) = (.ok c, t) := by
  have hpresent : (r.permissions.search path && (t.at? path).isSome) = true := by
    rw [(Bool.and_eq_true_iff.mp hpermitted).1, Bool.true_and]
    unfold FileTree.read at hcontent
    cases hat : t.at? path with
    | none =>
      rw [hat] at hcontent
      cases hcontent
    | some entry => rfl
  have hread : on t (liftM ((permitted r.permissions r.input).read path) : Attempt (StateM FileTree) (Option String)) =
      (.ok (some content), t) := by
    rw [← hcontent]
    exact congrArg (fun x => (Except.ok x, t)) (if_pos hpermitted)
  rw [on_bind, configPath, hpath]
  show on t (loadConfig _ path) = _
  rw [loadConfig, on_bind, on_isPresent, hpresent]
  dsimp only
  rw [if_pos rfl, on_bind, hread]
  dsimp only
  rw [hc]
  rfl

theorem Applies.perform (h : r.Applies t o c s text) {entity : String} {p : Predicate}
    (hp : s.compile c = .ok (entity, p)) {rows : List Json} (hrows : Json.parse text = some (.array rows)) :
    r.perform.run t = (.done (printRows o p rows), t) := by
  obtain ⟨⟨path, hread, htext⟩, hconfigured⟩ := h
  have hinput : on t (liftM (if isInput path then (permitted r.permissions r.input).input
      else (permitted r.permissions r.input).read path) : Attempt (StateM FileTree) (Option String)) =
        (.ok (some text), t) := by
    rw [← htext, rowsText?]
    split <;> rfl
  have hprinted : printRowsOf o p (some text) = .ok (printRows o p rows) := by
    rw [printRowsOf, rowsOf, hrows]
    rfl
  rw [perform_of_ok hread]
  dsimp only
  rw [Command.run, ← bind_assoc, on_bind, hconfigured]
  dsimp only
  rw [runApply, hp, on_bind, on_ofExcept]
  dsimp only
  rw [on_bind, hinput]
  dsimp only
  rw [hprinted, on_ofExcept, outcomeOf]

/-- A run that applies a filter succeeds and shows the rows of its text that meet the predicate of the filter, if the
    rows stand at most 125 deep in their array and their numbers are read as themselves; members that a later one of
    their name replaces do not count. Nothing changes in the files. -/
theorem perform_showsRows (h : r.Applies t o c s text) {entity : String} {p : Predicate}
    (hp : s.compile c = .ok (entity, p)) {rows : List Json} (hrows : Json.parse text = some (.array rows))
    (hdepth : (Json.array rows).depth ≤ 126) (hnumbers : (Json.array rows).AllNumbers JsonNumber.IsKept) :
    ∃ printed, r.perform.run t = (.done printed, t) ∧ printed.ShowsRows o (rows.filter p.holds) rows.length :=
  ⟨printRows o p rows, h.perform hp hrows, showsRows_printRows ⟨Json.isCanonical_of_parse hrows, hnumbers⟩ hdepth⟩

/-- A row with a line break that occurs twice, one with a member that is replaced, and one that is too young. -/
theorem perform_showsRows_repeated :
    let t := FileTree.ofFiles [("rq.toml", "[entities.user.fields]\nage=\"int\"")]
    let filter := "\x7b\"field\":\"age\",\"operator\":\"gt\",\"value\":17\x7d"
    let text := "[\x7b\"n\":\"\\n\",\"age\":20\x7d, \x7b\"age\":3,\"age\":18\x7d, \x7b\"age\":3\x7d, " ++
      "\x7b\"age\":20,\"n\":\"\\n\"\x7d]"
    let r : Run := ⟨⟨some "/rq.toml", none, none, none⟩, ["apply", "-f", filter, "--rows", "-"], some text, .all⟩
    let aged (i : Int) : Json := .object [("age", .number (.integer i))]
    let row : Json := .object [("age", .number (.integer 20)), ("n", .text "\n")]
    ∃ printed, r.perform.run t = (.done printed, t) ∧
      printed.ShowsRows ⟨false, false, false, true⟩ [row, aged 18, row] 4 := by
  intro t filter text r aged row
  let c : Config := ⟨none, ⟨[("user", [("age", .value .integer)])]⟩⟩
  have hread : Invocation.read r.environment r.arguments =
      .ok ⟨⟨false, false, false, true⟩, .apply ⟨.simple filter, none⟩ "-"⟩ := by decide +kernel
  have hconfig : Config.read "[entities.user.fields]\nage=\"int\"" = .ok c := by decide +kernel
  have happlies : r.Applies t ⟨false, false, false, true⟩ c ⟨.simple filter, none⟩ text :=
    ⟨⟨"-", hread, rfl⟩, configured_of_read rfl rfl rfl hconfig⟩
  have hcompiled : Selection.compile ⟨.simple filter, none⟩ c =
      .ok ("user", .leaf ⟨"age", .integer, .compare .gt (.integer 17)⟩) := by decide +kernel
  have hrows : Json.parse text = some (.array [row, aged 18, aged 3, row]) := by decide +kernel
  have hkept (i : Int) (hi : (JsonNumber.integer i).IsKept) {rest : List (String × Json)}
      (hrest : ∀ m ∈ rest, m.2.AllNumbers JsonNumber.IsKept) :
      (Json.object (("age", .number (.integer i)) :: rest)).AllNumbers JsonNumber.IsKept :=
    .object (List.forall_mem_cons.mpr ⟨.number hi, hrest⟩)
  have hrow : row.AllNumbers JsonNumber.IsKept :=
    hkept 20 ⟨by decide, by decide⟩ (List.forall_mem_singleton.mpr (.text "\n"))
  have hnumbers : (Json.array [row, aged 18, aged 3, row]).AllNumbers JsonNumber.IsKept :=
    .array (List.forall_mem_cons.mpr ⟨hrow, List.forall_mem_cons.mpr ⟨hkept 18 ⟨by decide, by decide⟩ nofun,
      List.forall_mem_cons.mpr ⟨hkept 3 ⟨by decide, by decide⟩ nofun, List.forall_mem_singleton.mpr hrow⟩⟩⟩)
  exact perform_showsRows happlies hcompiled hrows (by decide) hnumbers

end Run

end RowFilter
