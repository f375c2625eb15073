import RowFilter.Json.Value

/-! The tables of a TOML document while it is read. A table may be named on the way to another one
    and opened by its own header later, but it is opened only once; what a dotted key makes is closed
    to headers, and what a header opens is closed to dotted keys. -/

namespace RowFilter.Toml

/-- What made a table: its header, a longer header, or a dotted key. -/
inductive Origin where
  | header
  | longerHeader
  | dottedKey
  deriving DecidableEq, Repr, Inhabited

mutual
/-- A table and its entries. -/
structure Table where
  origin : Origin
  entries : List (String × Node)

/-- What an entry of a table holds: a finished value, a table, or the tables of a list. -/
inductive Node where
  | value (j : Json)
  | table (t : Table)
  | tables (ts : List Table)
end

deriving instance Repr, Inhabited for Table
deriving instance Repr, Inhabited for Node

namespace Table

/-- A table without entries. -/
def empty (o : Origin) : Table := ⟨o, []⟩

/-- Puts an entry into a table, instead of one of the same name. -/
def set (t : Table) (name : String) (n : Node) : Table :=
  ⟨t.origin, Keyed.insert name n t.entries⟩

/-- Changes the table at the end of a path. Tables that are missing on the way are made; of a list
    of tables the last one counts. `made` is what makes the tables. -/
def change (made : Origin) (f : Table → Option Table) : List String → Table → Option Table
  | [], t => f t
  | name :: rest, t =>
    match Keyed.find? name t.entries with
    | none => (change made f rest (empty made)).map fun u => t.set name (.table u)
    | some (.value _) => none
    | some (.tables us) => match us.getLast? with
      | none => none
      | some last =>
        (change made f rest last).map fun u => t.set name (.tables (us.dropLast ++ [u]))
    | some (.table u) =>
      if made = .dottedKey ∧ u.origin = .header then none
      else (change made f rest u).map fun u => t.set name (.table u)

/-- Adds an entry under a dotted key. -/
def addEntry (t : Table) (path : List String) (name : String) (n : Node) : Option Table :=
  t.change .dottedKey (fun u =>
    if (u.origin = .dottedKey ↔ path = []) ∨ (Keyed.find? name u.entries).isSome then none
    else some (u.set name n)) path

/-- Opens the table that a header names. -/
def openTable (t : Table) (path : List String) (name : String) : Option Table :=
  t.change .longerHeader (fun u =>
    match Keyed.find? name u.entries with
    | none => some (u.set name (.table (empty .header)))
    | some (.table ⟨.longerHeader, entries⟩) => some (u.set name (.table ⟨.header, entries⟩))
    | some _ => none) path

/-- Opens a further table of the list that a header names. -/
def openListed (t : Table) (path : List String) (name : String) : Option Table :=
  t.change .longerHeader (fun u =>
    match Keyed.find? name u.entries with
    | none => some (u.set name (.tables [empty .header]))
    | some (.tables us) => some (u.set name (.tables (us ++ [empty .header])))
    | some _ => none) path

end Table

/-! ### Values -/

mutual
/-- The value of a table. -/
def Table.toJson (t : Table) : Json :=
  match t with
  | ⟨_, entries⟩ => .object (Node.members entries)
termination_by structural t

/-- The value of an entry. -/
def Node.toJson (n : Node) : Json :=
  match n with
  | .value j => j
  | .table t => t.toJson
  | .tables ts => .array (Table.toJsons ts)
termination_by structural n

/-- The values of tables, in order. -/
def Table.toJsons (ts : List Table) : List Json :=
  match ts with
  | [] => []
  | t :: rest => t.toJson :: Table.toJsons rest
termination_by structural ts

/-- The values of entries with their names. -/
def Node.members (entries : List (String × Node)) : List (String × Json) :=
  match entries with
  | [] => []
  | e :: rest => Node.member e :: Node.members rest
termination_by structural entries

/-- The value of an entry with its name. -/
def Node.member (e : String × Node) : String × Json :=
  match e with
  | (name, n) => (name, n.toJson)
termination_by structural e
end

end RowFilter.Toml
