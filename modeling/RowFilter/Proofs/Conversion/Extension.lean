import RowFilter.Proofs.Conversion.Memory

/-! Schemas that grow. A path that leads to a value is followed through declared fields only, so it leads to the same
    value where more is declared, and whatever is converted without a fault is converted to the same. -/

namespace RowFilter

/-- All fields of the first list are in the second one, with the same types. -/
def Fields.AreIn (fields more : Fields) : Prop :=
  ∀ name type, Keyed.find? name fields = some type → Keyed.find? name more = some type

/-- All entities of the first schema are in the second one, with at least the same fields. -/
def Schema.IsIn (s t : Schema) : Prop :=
  ∀ entity fields, s.entity? entity = some fields → ∃ more, t.entity? entity = some more ∧ fields.AreIn more

variable {s t : Schema}

theorem Fields.areIn_of_forall_mem {fields more : Fields} (h : ∀ f ∈ fields, Keyed.find? f.1 more = some f.2) :
    fields.AreIn more :=
  fun name type hname => h (name, type) (Keyed.mem_of_find? hname)

theorem Schema.isIn_of_forall_mem (h : ∀ e ∈ s.entities, ∃ more, t.entity? e.1 = some more ∧ e.2.AreIn more) :
    s.IsIn t :=
  fun entity fields hentity => h (entity, fields) (Keyed.mem_of_find? hentity)

/-! ### Paths -/

namespace Schema

theorem IsIn.walk (h : s.IsIn t) {entity path : String} {names resolved : List String} {fields more : Fields} {k : Kind}
    (hfields : fields.AreIn more) (hwalk : s.walk entity path resolved fields names = .ok k) :
    t.walk entity path resolved more names = .ok k := by
  induction names generalizing resolved fields more with
  | nil => cases hwalk
  | cons name names ih =>
    rw [Schema.walk] at hwalk ⊢
    cases hname : Keyed.find? name fields with
    | none =>
      rw [hname] at hwalk
      cases hwalk
    | some type =>
      rw [hname] at hwalk
      rw [hfields name type hname]
      cases type with
      | value k => exact hwalk
      | relation target =>
        dsimp only at hwalk ⊢
        split at hwalk
        · cases hwalk
        · rename_i hnames
          rw [if_neg hnames]
          cases htarget : s.entity? target with
          | none =>
            rw [htarget] at hwalk
            cases hwalk
          | some next =>
            obtain ⟨more, hmore, hnext⟩ := h target next htarget
            rw [htarget] at hwalk
            rw [hmore]
            exact ih hnext hwalk

/-- A path that resolves also resolves, to the same kind, where more is declared. -/
theorem IsIn.resolve (h : s.IsIn t) {entity path : String} {k : Kind} (hresolve : s.resolve entity path = .ok k) :
    t.resolve entity path = .ok k := by
  rw [Schema.resolve] at hresolve ⊢
  cases hentity : s.entity? entity with
  | none =>
    rw [hentity] at hresolve
    cases hresolve
  | some fields =>
    obtain ⟨more, hmore, hfields⟩ := h entity fields hentity
    rw [hentity] at hresolve
    rw [hmore]
    exact h.walk hfields hresolve

theorem IsIn.kindOf (h : s.IsIn t) {entity field : String} {k : Kind} (hkind : s.kindOf entity field = .ok k) :
    t.kindOf entity field = .ok k := by
  rw [Schema.kindOf] at hkind ⊢
  cases hresolve : s.resolve entity field with
  | ok k' =>
    rw [hresolve] at hkind
    rw [h.resolve hresolve]
    exact hkind
  | error e =>
    rw [hresolve] at hkind
    cases hkind

end Schema

/-! ### Conversions -/

/-- It goes along with success, failure and sequence that one computation keeps the results of another. -/
theorem isLockstep_keeps : Conversion.IsLockstep (m := Except FilterError) (n := Except FilterError)
    fun _ x y => ∀ a, x = .ok a → y = .ok a where
  pure _ _ h := h
  throw _ _ h := by cases h
  bind hx hf b h := by
    obtain ⟨a, ha, hb⟩ := Success.bind_eq_ok_iff.mp h
    exact Success.bind_eq_ok_iff.mpr ⟨a, hx a ha, hf a b hb⟩

namespace Schema

theorem IsIn.compile (h : s.IsIn t) {entity : String} {f : Filter} {p : Predicate}
    (hcompile : s.compile entity f = .ok p) : t.compile entity f = .ok p :=
  isLockstep_keeps.ofFilter (fun _ _ => h.kindOf) f p hcompile

theorem IsIn.recover (h : s.IsIn t) {entity : String} {p : Predicate} {f : Filter}
    (hrecover : s.recover entity p = .ok f) : t.recover entity p = .ok f :=
  isLockstep_keeps.toFilter (fun _ _ => h.kindOf) p f hrecover

end Schema

/-! ### Sessions -/

namespace Catalog

/-- The answer is no error. -/
inductive Answer.Succeeds : Answer → Prop
  | added : Succeeds .added
  | kind (k : Kind) : Succeeds (.kind (.ok k))
  | predicate (p : Predicate) : Succeeds (.predicate (.ok p))
  | filter (f : Filter) : Succeeds (.filter (.ok f))

/-- What a catalog answers without an error, one with more declared answers as well, whatever either remembers. -/
theorem Remembers.perform_extend {c c' : Catalog} (hc : c.Remembers s) (hc' : c'.Remembers t) (h : s.IsIn t)
    (a : Action) (ha : ((Catalog.perform a).run c).1.Succeeds) :
    ((Catalog.perform a).run c').1 = ((Catalog.perform a).run c).1 := by
  rw [(hc.perform a).1] at ha ⊢
  rw [(hc'.perform a).1]
  cases a with
  | add | register => rfl
  | resolve entity path =>
    rw [Schema.answer] at ha
    rw [Schema.answer, Schema.answer]
    generalize hresult : s.resolve entity path = r at ha ⊢
    cases ha
    rw [h.resolve hresult]
  | compile entity f =>
    rw [Schema.answer] at ha
    rw [Schema.answer, Schema.answer]
    generalize hresult : s.compile entity f = r at ha ⊢
    cases ha
    rw [h.compile hresult]
  | recover entity p =>
    rw [Schema.answer] at ha
    rw [Schema.answer, Schema.answer]
    generalize hresult : s.recover entity p = r at ha ⊢
    cases ha
    rw [h.recover hresult]

theorem remembers_ofHistory (history : List Action) : (ofHistory history).Remembers (ofHistory history).schema := by
  have h := (remembers_ofSchema .empty).after history
  exact ⟨rfl, fun e he => h.schema ▸ h.memo e he⟩

end Catalog

namespace Schema

open Catalog

/-- Filters and predicates that are converted without a fault are converted to the same where more entities, fields
    and relations are declared, also by catalogs that have these schemas after any sessions. -/
theorem conversions_extend (h : s.IsIn t) :
    (∀ entity f p, s.compile entity f = .ok p → t.compile entity f = .ok p) ∧
    (∀ entity p f, s.recover entity p = .ok f → t.recover entity p = .ok f) ∧
    ∀ history history', (ofHistory history).schema = s → (ofHistory history').schema = t → ∀ a,
      ((perform a).run (ofHistory history)).1.Succeeds →
        ((perform a).run (ofHistory history')).1 = ((perform a).run (ofHistory history)).1 := by
  refine ⟨fun _ _ _ => h.compile, fun _ _ _ => h.recover, ?_⟩
  rintro history history' rfl rfl a ha
  exact (remembers_ofHistory history).perform_extend (remembers_ofHistory history') h a ha

/-- A path through a relation and a list of conditions, where an entity, fields and relations are added. -/
theorem conversions_extend_related :
    let s : Schema := ⟨[("team", [("name", .value .text)]),
      ("user", [("age", .value .integer), ("team", .relation "team")])]⟩
    let t : Schema := ⟨[("office", [("team", .relation "team")]), ("team", [("lead", .relation "user"),
      ("name", .value .text)]), ("user", [("Age", .value .text), ("age", .value .integer), ("name", .value .boolean),
      ("office", .relation "office"), ("team", .relation "team")])]⟩
    let f : Filter := .simple [⟨"team.name", .compare .eq, .text "a"⟩, ⟨"age", .null false, .null⟩]
    let p : Predicate := .join .and (.leaf ⟨"team.name", .text, .compare .eq (.text "a")⟩)
      (.leaf ⟨"age", .integer, .null false⟩)
    s.IsIn t ∧ t.compile "user" f = .ok p ∧ t.recover "user" p = .ok f := by
  intro s t f p
  have hin : s.IsIn t := by
    refine isIn_of_forall_mem (List.forall_mem_cons.mpr ⟨⟨_, rfl, ?_⟩, List.forall_mem_singleton.mpr ⟨_, rfl, ?_⟩⟩)
    · exact Fields.areIn_of_forall_mem (by decide)
    · exact Fields.areIn_of_forall_mem (by decide)
  exact ⟨hin, (conversions_extend hin).1 "user" f p rfl, (conversions_extend hin).2.1 "user" p f rfl⟩

end Schema

end RowFilter
