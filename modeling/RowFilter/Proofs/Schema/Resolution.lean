import RowFilter.Config.Basic
import RowFilter.Proofs.Keyed
import RowFilter.Proofs.Schema.Suggestion
import RowFilter.Schema.Reading
import RowFilter.Schema.Resolution

/-! The exact outcome of resolving a path. It is followed through related entities as far as they are in the schema,
    however often it comes by the same one, and what stands at the place where this ends decides: a value at the
    end of the path is the outcome, and anything else an error of its own. -/

namespace RowFilter

/-! ### Schemas in order -/

namespace Schema

/-- The fields of every entity are in ascending order of their names. -/
def IsOrdered (s : Schema) : Prop :=
  ∀ e ∈ s.entities, Keyed.Ascending e.2

instance (s : Schema) : Decidable s.IsOrdered :=
  inferInstanceAs (Decidable (∀ e ∈ s.entities, Keyed.Ascending e.2))

theorem IsOrdered.ascending {s : Schema} (h : s.IsOrdered) {entity : String} {fields : Fields}
    (hentity : s.entity? entity = some fields) : Keyed.Ascending fields :=
  h _ (Keyed.mem_of_find? hentity)

theorem IsOrdered.insert {s : Schema} (h : s.IsOrdered) (name : String) {fields : Fields}
    (hfields : Keyed.Ascending fields) : (s.insert name fields).IsOrdered := by
  intro e he
  rcases Keyed.mem_insert he with rfl | he
  · exact hfields
  · exact h e he

theorem isOrdered_sorted {entities : Keyed Fields} (h : ∀ e ∈ entities, Keyed.Ascending e.2) :
    (Schema.mk (Keyed.sorted entities)).IsOrdered := by
  have hfold : ∀ (l : Keyed Fields) (s : Schema), s.IsOrdered → (∀ e ∈ l, Keyed.Ascending e.2) →
      (Schema.mk (l.foldl (fun m e => Keyed.insert e.1 e.2 m) s.entities)).IsOrdered := by
    intro l
    induction l with
    | nil => exact fun s hs _ => hs
    | cons e l ih =>
      intro s hs hl
      obtain ⟨he, hl⟩ := List.forall_mem_cons.mp hl
      exact ih (s.insert e.1 e.2) (hs.insert e.1 he) hl
  exact hfold entities empty nofun h

end Schema

theorem Fields.ascending_of_ofJson? {j : Json} {fields : Fields} (h : Fields.ofJson? j = some fields) :
    Keyed.Ascending fields := by
  cases j with
  | object members =>
    obtain ⟨l, -, hl⟩ := Option.bind_eq_some_iff.mp h
    cases hl
    exact Keyed.ascending_sorted l
  | _ => cases h

theorem Fields.ascending_of_mapM {f : Json → Option Fields} (hf : ∀ j fields, f j = some fields → Keyed.Ascending fields)
    {members : List (String × Json)} {entities : Keyed Fields}
    (h : (members.mapM fun m => do return (m.1, ← f m.2)) = some entities) :
    ∀ e ∈ entities, Keyed.Ascending e.2 := by
  induction members generalizing entities with
  | nil =>
    cases h
    exact nofun
  | cons m members ih =>
    rw [List.mapM_cons] at h
    obtain ⟨e, he, h⟩ := Option.bind_eq_some_iff.mp h
    obtain ⟨rest, hrest, h⟩ := Option.bind_eq_some_iff.mp h
    cases h
    obtain ⟨fields, hfields, he⟩ := Option.bind_eq_some_iff.mp he
    cases he
    exact List.forall_mem_cons.mpr ⟨hf m.2 fields hfields, ih hrest⟩

/-- Schemas that are read from documents are in order. -/
theorem Schema.isOrdered_of_ofJson? {j : Json} {s : Schema} (h : Schema.ofJson? j = some s) : s.IsOrdered := by
  cases j with
  | object members =>
    obtain ⟨entities, hentities, h⟩ := Option.bind_eq_some_iff.mp h
    cases h
    have hfields : ∀ j fields, Fields.ofJson? j = some fields → Keyed.Ascending fields :=
      fun _ _ => Fields.ascending_of_ofJson?
    exact isOrdered_sorted (Fields.ascending_of_mapM hfields hentities)
  | _ => cases h

theorem Config.isOrdered_of_schemaOf {document : Json} {s : Schema} (h : Config.schemaOf document = some s) :
    s.IsOrdered := by
  have hfields : ∀ j fields, Config.fieldsOf j = some fields → Keyed.Ascending fields := by
    intro j fields h
    unfold Config.fieldsOf at h
    split at h
    · split at h
      · cases h
        exact .nil
      · exact Fields.ascending_of_ofJson? h
    · cases h
      exact .nil
    · exact Fields.ascending_of_ofJson? h
    · cases h
  unfold Config.schemaOf at h
  split at h
  · cases h
    exact nofun
  · obtain ⟨entities, hentities, h⟩ := Option.bind_eq_some_iff.mp h
    cases h
    exact Schema.isOrdered_sorted (Fields.ascending_of_mapM hfields hentities)
  · cases h

namespace Schema

/-! ### Places on a path -/

/-- From an entity each of the names leads on to an entity of the schema, the last of which has the fields. -/
inductive Leads (s : Schema) : String → List String → Fields → Prop
  | here {entity : String} {fields : Fields} : s.entity? entity = some fields → Leads s entity [] fields
  | onward {entity name target : String} {names : List String} {fields last : Fields} :
      s.entity? entity = some fields → Keyed.find? name fields = some (.relation target) →
      Leads s target names last → Leads s entity (name :: names) last

/-- The parts of a path before `name` lead from an entity to the one with the fields; `rest` is behind it. -/
structure Reaches (s : Schema) (entity path : String) (names : List String) (name : String) (rest : List String)
    (fields : Fields) : Prop where
  parts : Text.segments path = names ++ name :: rest
  leads : s.Leads entity names fields

/-- What is suggested instead of a name that is not declared: a path by the same way to the nearest name. -/
structure Suggests (names : List String) (name : String) (declared : List String) (suggestion : Option String) :
    Prop where
  isSome_iff : suggestion.isSome = true ↔ ∃ n ∈ declared, n ≠ "" ∧ Suggestion.edits name n ≤ 3
  nearest : ∀ t, suggestion = some t →
    ∃ best, Suggestion.IsNearest name declared best ∧ t = dotted (names ++ [best])

/-- Why a path from an entity does not resolve. -/
inductive Fails (s : Schema) (entity path : String) : ResolutionError → Prop
  /-- The entity is not in the schema. -/
  | start : s.entity? entity = none → Fails s entity path (.entity entity)
  /-- A part before the last one leads to an entity that is not in the schema. -/
  | target {names : List String} {name target : String} {rest : List String} {fields : Fields} :
      s.Reaches entity path names name rest fields → Keyed.find? name fields = some (.relation target) → rest ≠ [] →
      s.entity? target = none → Fails s entity path (.entity target)
  /-- A part is no field of the entity that is reached. -/
  | undeclared {names : List String} {name : String} {rest : List String} {fields : Fields}
      {suggestion : Option String} :
      s.Reaches entity path names name rest fields → Keyed.find? name fields = none →
      Suggests names name (Keyed.names fields) suggestion → Fails s entity path (.field entity path suggestion)
  /-- A part before the last one holds a value. -/
  | value {names : List String} {name : String} {rest : List String} {fields : Fields} {k : Kind} :
      s.Reaches entity path names name rest fields → Keyed.find? name fields = some (.value k) → rest ≠ [] →
      Fails s entity path (.field entity path none)
  /-- The last part leads to another entity. -/
  | relation {names : List String} {name target : String} {fields : Fields} :
      s.Reaches entity path names name [] fields → Keyed.find? name fields = some (.relation target) →
      Fails s entity path (.field entity path none)

variable {s : Schema} {entity path : String} {names rest : List String} {name : String} {fields : Fields}

theorem Leads.walk {start : String} (h : s.Leads start names fields) (resolved : List String) (hrest : rest ≠ []) :
    ∃ first, s.entity? start = some first ∧
      s.walk entity path resolved first (names ++ rest) = s.walk entity path (resolved ++ names) fields rest := by
  induction h generalizing resolved with
  | here hstart => exact ⟨_, hstart, by rw [List.nil_append, List.append_nil]⟩
  | @onward _ name _ names _ _ hstart hname _ ih =>
    obtain ⟨next, hnext, hwalk⟩ := ih (resolved ++ [name])
    have hmore : (names ++ rest).isEmpty = false := by
      rw [List.isEmpty_eq_false_iff]
      exact List.append_ne_nil_of_right_ne_nil names hrest
    refine ⟨_, hstart, ?_⟩
    rw [List.cons_append, Schema.walk, hname]
    simp only [hmore, Bool.false_eq_true, if_false, hnext, hwalk, List.append_assoc, List.singleton_append]

theorem Reaches.resolve (h : s.Reaches entity path names name rest fields) :
    s.resolve entity path = s.walk entity path names fields (name :: rest) := by
  obtain ⟨first, hfirst, hwalk⟩ := h.leads.walk [] (List.cons_ne_nil name rest)
  rw [Schema.resolve, hfirst, h.parts]
  exact hwalk

/-- A path can be followed until it ends or no further entity is there to go on with. -/
theorem exists_place (hentity : s.entity? entity = some fields) (name : String) (rest : List String) :
    ∃ names last more found, name :: rest = names ++ last :: more ∧ s.Leads entity names found ∧
      (more = [] ∨ ∀ target, Keyed.find? last found = some (.relation target) → s.entity? target = none) := by
  induction rest generalizing entity fields name with
  | nil => exact ⟨[], name, [], fields, rfl, .here hentity, .inl rfl⟩
  | cons next rest ih =>
    by_cases honward : ∃ target, Keyed.find? name fields = some (.relation target) ∧ s.entity? target ≠ none
    · obtain ⟨target, hname, htarget⟩ := honward
      obtain ⟨found, hfound⟩ := Option.ne_none_iff_exists'.mp htarget
      obtain ⟨names, last, more, found, hparts, hleads, hend⟩ := ih hfound next
      exact ⟨name :: names, last, more, found, congrArg (name :: ·) hparts, .onward hentity hname hleads, hend⟩
    · refine ⟨[], name, next :: rest, fields, rfl, .here hentity, .inr fun target hname => ?_⟩
      by_contra htarget
      exact honward ⟨target, hname, htarget⟩

/-! ### Outcomes -/

theorem Suggests.unique {declared : List String} {suggestion other : Option String}
    (h : Suggests names name declared suggestion) (h' : Suggests names name declared other) : suggestion = other := by
  have hsome : suggestion.isSome = true ↔ other.isSome = true := h.isSome_iff.trans h'.isSome_iff.symm
  cases suggestion with
  | none =>
    cases other with
    | none => rfl
    | some t' => cases hsome.mpr rfl
  | some t =>
    cases other with
    | none => cases hsome.mp rfl
    | some t' =>
      obtain ⟨best, hbest, rfl⟩ := h.nearest t rfl
      obtain ⟨best', hbest', rfl⟩ := h'.nearest t' rfl
      rw [hbest.unique hbest']

theorem suggests_forName? (hfields : Keyed.Ascending fields) (hname : Keyed.find? name fields = none) :
    Suggests names name (Keyed.names fields)
      ((Suggestion.forName? name (Keyed.names fields)).map fun n => dotted (names ++ [n])) := by
  have hmem : name ∉ Keyed.names fields := Keyed.find?_eq_none_iff.mp hname
  constructor
  · rw [Option.isSome_map]
    exact Suggestion.isSome_forName?_iff hmem
  · intro t ht
    obtain ⟨best, hbest, rfl⟩ := Option.map_eq_some_iff.mp ht
    exact ⟨best, (Suggestion.isNearest_of_forName? hfields hmem hbest).1, rfl⟩

theorem Leads.exists_entity {start : String} (h : s.Leads start names fields) : ∃ last, s.entity? last = some fields := by
  induction h with
  | here hentity => exact ⟨_, hentity⟩
  | onward _ _ _ ih => exact ih

theorem resolve_of_value {k : Kind} (h : s.Reaches entity path names name [] fields)
    (hname : Keyed.find? name fields = some (.value k)) : s.resolve entity path = .ok k := by
  rw [h.resolve, walk, hname]
  rfl

theorem Fails.resolve (hs : s.IsOrdered) {e : ResolutionError} (h : s.Fails entity path e) :
    s.resolve entity path = .error e := by
  cases h with
  | start hentity => rw [Schema.resolve, hentity]
  | target hreaches hname hrest htarget =>
    rw [hreaches.resolve, walk, hname]
    simp only [List.isEmpty_eq_false_iff.mpr hrest, Bool.false_eq_true, if_false, htarget]
  | undeclared hreaches hname hsuggests =>
    obtain ⟨last, hlast⟩ := hreaches.leads.exists_entity
    rw [hreaches.resolve, walk, hname, hsuggests.unique (suggests_forName? (hs.ascending hlast) hname)]
  | value hreaches hname hrest =>
    rw [hreaches.resolve, walk, hname]
    simp only [List.isEmpty_eq_false_iff.mpr hrest, Bool.false_eq_true, if_false]
  | relation hreaches hname =>
    rw [hreaches.resolve, walk, hname]
    rfl

/-- Every path from an entity leads to a value or fails in one of the ways told apart. -/
theorem value_or_fails (hs : s.IsOrdered) (entity path : String) :
    (∃ k names name fields, s.Reaches entity path names name [] fields ∧
      Keyed.find? name fields = some (.value k)) ∨ ∃ e, s.Fails entity path e := by
  cases hentity : s.entity? entity with
  | none => exact .inr ⟨_, .start hentity⟩
  | some fields =>
    obtain ⟨first, rest, hparts⟩ : ∃ first rest, Text.segments path = first :: rest :=
      List.exists_cons_of_ne_nil (by simpa [Text.segments] using Text.split_ne_nil '.' path.toList)
    obtain ⟨names, name, more, found, hplace, hleads, hend⟩ := exists_place hentity first rest
    have hreaches : s.Reaches entity path names name more found := ⟨hparts.trans hplace, hleads⟩
    cases hname : Keyed.find? name found with
    | none =>
      obtain ⟨last, hlast⟩ := hleads.exists_entity
      exact .inr ⟨_, .undeclared hreaches hname (suggests_forName? (hs.ascending hlast) hname)⟩
    | some type =>
      cases type with
      | value k =>
        by_cases hmore : more = []
        · subst hmore
          exact .inl ⟨k, names, name, found, hreaches, hname⟩
        · exact .inr ⟨_, .value hreaches hname hmore⟩
      | relation target =>
        by_cases hmore : more = []
        · subst hmore
          exact .inr ⟨_, .relation hreaches hname⟩
        · exact .inr ⟨_, .target hreaches hname hmore (hend.resolve_left hmore target hname)⟩

/-- A path resolves to a kind exactly if it leads to a value of the kind, and fails with an error exactly if it
    fails in the way that the error tells. -/
theorem resolve_exact (hs : s.IsOrdered) (entity path : String) :
    (∀ k, s.resolve entity path = .ok k ↔ ∃ names name fields, s.Reaches entity path names name [] fields ∧
      Keyed.find? name fields = some (.value k)) ∧
    ∀ e, s.resolve entity path = .error e ↔ s.Fails entity path e := by
  refine ⟨fun k => ⟨fun h => ?_, ?_⟩, fun e => ⟨fun h => ?_, fun h => h.resolve hs⟩⟩
  · rcases value_or_fails hs entity path with ⟨k', names, name, fields, hreaches, hname⟩ | ⟨e, hfails⟩
    · rw [resolve_of_value hreaches hname] at h
      cases h
      exact ⟨names, name, fields, hreaches, hname⟩
    · rw [hfails.resolve hs] at h
      cases h
  · rintro ⟨names, name, fields, hreaches, hname⟩
    exact resolve_of_value hreaches hname
  · rcases value_or_fails hs entity path with ⟨k', names, name, fields, hreaches, hname⟩ | ⟨e', hfails⟩
    · rw [resolve_of_value hreaches hname] at h
      cases h
    · rw [hfails.resolve hs] at h
      cases h
      exact hfails

/-- Paths around a relation of an entity to itself: to a value, to an entity that is missing, and to a name that
    two others are equally near to. -/
theorem resolve_exact_cyclic :
    let s : Schema := ⟨[("user", [("boss", .relation "user"), ("nama", .value .text), ("name", .value .text),
      ("team", .relation "team")])]⟩
    s.IsOrdered ∧
      (∃ names name fields, s.Reaches "user" "boss.boss.name" names name [] fields ∧
        Keyed.find? name fields = some (.value .text)) ∧
      s.Fails "user" "boss.team.id" (.entity "team") ∧
      s.Fails "user" "boss.Namo" (.field "user" "boss.Namo" (some "boss.nama")) := by
  intro s
  have hs : s.IsOrdered := by decide
  have hvalue : s.resolve "user" "boss.boss.name" = .ok .text := rfl
  have htarget : s.resolve "user" "boss.team.id" = .error (.entity "team") := rfl
  have hundeclared : s.resolve "user" "boss.Namo" = .error (.field "user" "boss.Namo" (some "boss.nama")) := rfl
  exact ⟨hs, ((resolve_exact hs _ _).1 _).mp hvalue, ((resolve_exact hs _ _).2 _).mp htarget,
    ((resolve_exact hs _ _).2 _).mp hundeclared⟩

end Schema

end RowFilter
