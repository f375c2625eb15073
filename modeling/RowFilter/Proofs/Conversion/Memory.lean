import RowFilter.Conversion.Session
import RowFilter.Proofs.Conversion.Lockstep
import RowFilter.Proofs.Keyed
import RowFilter.Proofs.Success

/-! The memory of a catalog does not show. Whatever was asked before, the kinds that are remembered are
    those that paths lead to over the entities that are there now, so every answer is the one that the
    schema gives without a memory. -/

namespace RowFilter

variable {α β : Type} {s t : Schema} {c : Catalog}

namespace Catalog

/-! ### What is remembered -/

/-- The catalog is one of the schema, and every kind that it remembers is where the path leads. -/
structure Remembers (c : Catalog) (s : Schema) : Prop where
  schema : c.schema = s
  memo : ∀ e ∈ c.memo, s.resolve e.1.1 e.1.2 = .ok e.2

theorem remembers_ofSchema (s : Schema) : (ofSchema s).Remembers s :=
  ⟨rfl, List.forall_mem_nil _⟩

/-- A path is resolved as in the schema, and what is remembered stays right. -/
theorem Remembers.resolve (h : c.Remembers s) (entity path : String) :
    ((Catalog.resolve entity path).run c).1 = s.resolve entity path ∧
      ((Catalog.resolve entity path).run c).2.Remembers s := by
  obtain ⟨rfl, hmemo⟩ := h
  show (Catalog.resolve entity path c).1 = _ ∧ (Catalog.resolve entity path c).2.Remembers _
  rw [Catalog.resolve]
  cases hlookup : c.memo.lookup (entity, path) with
  | some k =>
    obtain ⟨front, back, hsplit, -⟩ := List.lookup_eq_some_iff.mp hlookup
    have hmem : ((entity, path), k) ∈ c.memo := hsplit ▸ List.mem_append_right front List.mem_cons_self
    exact ⟨(hmemo _ hmem).symm, rfl, hmemo⟩
  | none =>
    cases hresolve : c.schema.resolve entity path with
    | ok k => exact ⟨rfl, rfl, List.forall_mem_cons.mpr ⟨hresolve, hmemo⟩⟩
    | error e => exact ⟨rfl, rfl, hmemo⟩

/-! ### Conversions by memory -/

/-- By the memory of any catalog of the schema the look-up has this result, and what is remembered after
    it is right as well. -/
def Agrees (s : Schema) (x : Lookup α) (y : Except FilterError α) : Prop :=
  ∀ c : Catalog, c.Remembers s → (x.run.run c).1 = y ∧ (x.run.run c).2.Remembers s

theorem agrees_pure (a : α) : Agrees s (pure a) (pure a) :=
  fun _ h => ⟨rfl, h⟩

theorem agrees_throw (e : FilterError) : Agrees s (throw e : Lookup α) (throw e) :=
  fun _ h => ⟨rfl, h⟩

theorem Agrees.bind {x : Lookup α} {y : Except FilterError α} {f : α → Lookup β} {g : α → Except FilterError β}
    (hx : Agrees s x y) (hf : ∀ a, Agrees s (f a) (g a)) : Agrees s (x >>= f) (y >>= g) := by
  intro c h
  obtain ⟨hresult, hafter⟩ := hx c h
  rw [ExceptT.run_bind, StateT.run_bind]
  cases hx : x.run.run c with
  | mk r c' =>
    rw [hx] at hresult hafter
    obtain rfl : r = y := hresult
    cases r with
    | ok a => exact hf a c' hafter -- The second part starts from what the first one remembers.
    | error e => exact ⟨rfl, hafter⟩

theorem isLockstep_agrees (s : Schema) :
    Conversion.IsLockstep (m := Lookup) (n := Except FilterError) fun _ => Agrees s where
  pure := agrees_pure
  throw := agrees_throw
  bind := Agrees.bind

theorem run_lift_bind (x : StateM Catalog α) (f : α → Lookup β) (c : Catalog) :
    ((liftM x : Lookup α) >>= f).run.run c = (f (x.run c).1).run.run (x.run c).2 :=
  rfl

theorem agrees_kindOf (entity field : String) : Agrees s (kindOf entity field) (s.kindOf entity field) := by
  intro c h
  obtain ⟨hresult, hafter⟩ := h.resolve entity field
  rw [kindOf, run_lift_bind, hresult, Schema.kindOf]
  cases s.resolve entity field with
  | ok k => exact ⟨rfl, hafter⟩
  | error e => exact ⟨rfl, hafter⟩

end Catalog

/-! ### Schemas with the same entities -/

namespace Schema

theorem walk_congr (h : ∀ name, s.entity? name = t.entity? name) (entity path : String) (names : List String)
    (resolved : List String) (fields : Fields) :
    s.walk entity path resolved fields names = t.walk entity path resolved fields names := by
  induction names generalizing resolved fields with
  | nil => rfl
  | cons name names ih =>
    rw [walk, walk]
    cases Keyed.find? name fields with
    | none => rfl
    | some field =>
      cases field with
      | value k => rfl
      | relation target =>
        dsimp only
        rw [h target]
        cases t.entity? target with
        | none => rfl
        | some fields =>
          dsimp only
          rw [ih]

/-- Resolution looks at nothing but the fields of entities. -/
theorem resolve_congr (h : ∀ name, s.entity? name = t.entity? name) (entity path : String) :
    s.resolve entity path = t.resolve entity path := by
  rw [resolve, resolve, h entity]
  cases t.entity? entity with
  | none => rfl
  | some fields => exact walk_congr h entity path _ _ _

theorem kindOf_congr (h : ∀ name, s.entity? name = t.entity? name) (entity : String) :
    s.kindOf entity = t.kindOf entity := by
  funext field
  rw [kindOf, kindOf, resolve_congr h]

theorem entity?_insert (s : Schema) (name name' : String) (fields : Fields) :
    (s.insert name fields).entity? name' = if name = name' then some fields else s.entity? name' :=
  Keyed.find?_insert

/-- What the schema answers, without a memory. -/
def answer (s : Schema) : Catalog.Action → Catalog.Answer
  | .add _ | .register _ => .added
  | .resolve entity path => .kind (s.resolve entity path)
  | .compile entity f => .predicate (s.compile entity f)
  | .recover entity p => .filter (s.recover entity p)

theorem answer_congr (h : ∀ name, s.entity? name = t.entity? name) (a : Catalog.Action) : s.answer a = t.answer a := by
  cases a with
  | resolve entity path => rw [answer, resolve_congr h, answer]
  | compile entity f => rw [answer, compile, kindOf_congr h, answer, compile]
  | recover entity p => rw [answer, recover, kindOf_congr h, answer, recover]
  | _ => rfl

end Schema

/-! ### Sessions -/

/-- The entity that an action puts in, and its fields. -/
def Catalog.Action.entity? : Catalog.Action → Option (String × Fields)
  | .add e => some (e.name, e.fields)
  | .register e => some (e.name, e.schema.fields)
  | _ => none

/-- The schema after an action. -/
def Schema.extend (s : Schema) (a : Catalog.Action) : Schema :=
  match a.entity? with
  | some (name, fields) => s.insert name fields
  | none => s

namespace Catalog

/-- An action is answered as by the schema, and what is remembered stays right for the schema after it. -/
theorem Remembers.perform (h : c.Remembers s) (a : Action) :
    ((perform a).run c).1 = s.answer a ∧ ((perform a).run c).2.Remembers (s.extend a) := by
  cases a with
  | add e =>
    refine ⟨rfl, ?_⟩
    rw [← h.schema]
    exact remembers_ofSchema _
  | register e =>
    refine ⟨rfl, ?_⟩
    rw [← h.schema]
    exact remembers_ofSchema _
  | resolve entity path =>
    obtain ⟨hresult, hafter⟩ := h.resolve entity path
    exact ⟨congrArg Answer.kind hresult, hafter⟩
  | compile entity f =>
    obtain ⟨hresult, hafter⟩ := (isLockstep_agrees s).ofFilter (agrees_kindOf entity) f c h
    exact ⟨congrArg Answer.predicate hresult, hafter⟩
  | recover entity p =>
    obtain ⟨hresult, hafter⟩ := (isLockstep_agrees s).toFilter (agrees_kindOf entity) p c h
    exact ⟨congrArg Answer.filter hresult, hafter⟩

theorem Remembers.after (h : c.Remembers s) (history : List Action) :
    (c.after history).Remembers (history.foldl Schema.extend s) := by
  induction history generalizing c s with
  | nil => exact h
  | cons a history ih => exact ih (h.perform a).2

/-- The fields of an entity that were put in last. -/
def fieldsAfter (history : List Action) (name : String) : Option Fields :=
  Keyed.find? name (history.filterMap Action.entity?).reverse

theorem entity?_foldl (history : List Action) (name : String) :
    (history.foldl Schema.extend s).entity? name = (fieldsAfter history name).or (s.entity? name) := by
  -- By induction from the first action on: its entity is the one found last, before those of the schema.
  induction history generalizing s with
  | nil => rfl
  | cons a history ih =>
    rw [List.foldl_cons, ih, fieldsAfter, fieldsAfter, Schema.extend]
    cases ha : a.entity? with
    | none => rw [List.filterMap_cons_none ha]
    | some e =>
      obtain ⟨name', fields⟩ := e
      rw [List.filterMap_cons_some ha, List.reverse_cons, Keyed.find?_append, Option.or_assoc]
      refine congrArg (Option.or _) ?_
      dsimp only
      rw [Schema.entity?_insert, Keyed.find?, Keyed.find?]
      split <;> rfl

/-- After any session the catalog has the fields that were put in last, every kind that it remembers is where
    the path leads over them, and it gives every answer that a new catalog with the same fields gives, which
    is the one without a memory. -/
theorem perform_ofHistory (history : List Action) :
    (∀ name, (ofHistory history).schema.entity? name = fieldsAfter history name) ∧
      (∀ e ∈ (ofHistory history).memo, (ofHistory history).schema.resolve e.1.1 e.1.2 = .ok e.2) ∧
      ∀ t : Schema, (∀ name, t.entity? name = fieldsAfter history name) → ∀ a,
        ((perform a).run (ofHistory history)).1 = ((perform a).run (ofSchema t)).1 ∧
          ((perform a).run (ofSchema t)).1 = t.answer a := by
  have h : (ofHistory history).Remembers (history.foldl Schema.extend .empty) := (remembers_ofSchema _).after history
  have hfields : ∀ name, (history.foldl Schema.extend .empty).entity? name = fieldsAfter history name := fun name =>
    (entity?_foldl history name).trans Option.or_none
  refine ⟨fun name => ?_, fun e he => ?_, fun t ht a => ?_⟩
  · rw [h.schema, hfields]
  · rw [h.schema]
    exact h.memo e he
  · have hfresh := ((remembers_ofSchema t).perform a).1
    refine ⟨?_, hfresh⟩
    rw [hfresh, (h.perform a).1]
    exact Schema.answer_congr (fun name => (hfields name).trans (ht name).symm) a

/-- A path is resolved and remembered, and then the entity that it leads through is replaced, by a type whose
    schema has another name. -/
theorem perform_ofHistory_replaced :
    let history : List Action := [.add ⟨"team", [("name", .value .text)]⟩,
      .add ⟨"user", [("age", .value .integer), ("team", .relation "team")]⟩, .resolve "user" "team.name",
      .compile "user" (.simple [⟨"age", .null false, .null⟩]),
      .register ⟨"team", ⟨"ignored", [("name", .value .boolean)]⟩⟩, .resolve "user" "age"]
    let t : Schema := ⟨[("team", [("name", .value .boolean)]),
      ("user", [("age", .value .integer), ("team", .relation "team")])]⟩
    (∀ name, t.entity? name = fieldsAfter history name) ∧
      (ofHistory history).memo = [(("user", "age"), .integer)] ∧
      ((perform (.resolve "user" "team.name")).run (ofHistory history)).1 = .kind (.ok .boolean) ∧
      ((perform (.compile "user" (.simple [⟨"team.name", .compare .eq, .text "no"⟩]))).run (ofHistory history)).1 =
        .predicate (.error (.coercion "team.name" .boolean (.text "no"))) := by
  intro history t
  obtain ⟨hfields, -, hanswers⟩ := perform_ofHistory history
  have hschema : (ofHistory history).schema = t := rfl
  have ht : ∀ name, t.entity? name = fieldsAfter history name := fun name => hschema ▸ hfields name
  refine ⟨ht, rfl, ?_, ?_⟩
  · exact (hanswers t ht _).1.trans (hanswers t ht _).2
  · exact (hanswers t ht _).1.trans (hanswers t ht _).2

end Catalog

end RowFilter
