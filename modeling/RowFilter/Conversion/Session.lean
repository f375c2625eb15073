import RowFilter.Conversion.Backward

/-! Sessions with a catalog: entities are added, paths resolved and filters converted, one after another
    and in any order, over one memory. -/

namespace RowFilter.Catalog

/-- What a catalog is asked for. -/
inductive Action where
  | add (e : EntitySchema)
  | register (e : Entity)
  | resolve (entity path : String)
  | compile (entity : String) (f : Filter)
  | recover (entity : String) (p : Predicate)
  deriving Repr, Inhabited

/-- What a catalog answers. -/
inductive Answer where
  | added
  | kind (r : Except ResolutionError Kind)
  | predicate (r : Except FilterError Predicate)
  | filter (r : Except FilterError Filter)
  deriving Repr, Inhabited

/-- Carries out an action. -/
def perform : Action → StateM Catalog Answer
  | .add e => do
    modify fun c => c.add e
    return .added
  | .register e => do
    modify fun c => c.register e
    return .added
  | .resolve entity path => do
    let r ← resolve entity path
    return .kind r
  | .compile entity f => do
    let r ← (compile entity f).run
    return .predicate r
  | .recover entity p => do
    let r ← (recover entity p).run
    return .filter r

/-- The catalog after some actions, one after another. -/
def after (c : Catalog) (history : List Action) : Catalog :=
  history.foldl (fun c a => ((perform a).run c).2) c

/-- The catalog that starts without entities, after some actions. -/
def ofHistory (history : List Action) : Catalog :=
  (ofSchema .empty).after history

end RowFilter.Catalog
