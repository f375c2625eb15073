import RowFilter.Toml.Scalar
import RowFilter.Toml.Table

/-! Reading TOML documents. A document is a list of statements, each on a line of its own: headers
    open tables, and entries go into the table opened last. -/

namespace RowFilter.Toml

/-! ### Values -/

/-- The elements of an array up to its closing bracket, at least one. -/
def elements (element : Reader Json) (cs : List Char) : Option (List Json × List Char) :=
  match element cs with
  | none => none
  | some (j, rest) => match skip rest with
    | ']' :: more => some ([j], more)
    | ',' :: more => match skip more with
      | ']' :: more => some ([j], more)
      | next =>
        if next.length < cs.length then
          (elements element next).map fun (js, r) => (j :: js, r)
        else none
    | _ => none
termination_by cs.length

/-- An entry: a key, an equals sign and a value. -/
def entry (value : Reader Json) (cs : List Char) :
    Option (((List String × String) × Json) × List Char) := do
  let (k, rest) ← key cs
  let '=' :: rest := skipSpace rest | none
  let (j, rest) ← value (skipSpace rest)
  return ((k, j), rest)

/-- The entries of an inline table up to its closing brace, at least one. -/
def entries (value : Reader Json) (cs : List Char) :
    Option (List ((List String × String) × Json) × List Char) :=
  match entry value cs with
  | none => none
  | some (e, rest) => match skipSpace rest with
    | '\x7d' :: more => some ([e], more)
    | ',' :: more =>
      if more.length < cs.length then
        (entries value more).map fun (es, r) => (e :: es, r)
      else none
    | _ => none
termination_by cs.length

/-- The value of an inline table. -/
def inlineValue (es : List ((List String × String) × Json)) : Option Json :=
  (es.foldlM (fun (t : Table) e => t.addEntry e.1.1 e.1.2 (.value e.2))
    (Table.empty .header)).map Table.toJson

/-- A value in which arrays and inline tables stand at most `depth` deep inside one another. -/
def value : Nat → Reader Json
  | 0 => scalar
  | depth + 1 => fun cs =>
    match cs with
    | '[' :: rest => match skip rest with
      | ']' :: more => some (.array [], more)
      | rest => (elements (value depth) rest).map fun (js, more) => (.array js, more)
    | '\x7b' :: rest => match skipSpace rest with
      | '\x7d' :: more => some (.object [], more)
      | rest => do
        let (es, more) ← entries (value depth) rest
        return (← inlineValue es, more)
    | cs => scalar cs

/-- The greatest depth of a value. -/
def maxDepth : Nat := 79

/-! ### Statements -/

/-- A line of a document: a header of a table or of a further table of a list, or an entry. Names
    come as those on the way and the last one. -/
inductive Statement where
  | table (path : List String) (name : String)
  | listed (path : List String) (name : String)
  | entry (path : List String) (name : String) (j : Json)
  deriving Repr

/-- A statement at the front of a text. -/
def statement : Reader Statement
  | '[' :: '[' :: rest => do
    let ((path, name), rest) ← key rest
    let ']' :: ']' :: rest := rest | none
    return (.listed path name, rest)
  | '[' :: rest => do
    let ((path, name), rest) ← key rest
    let ']' :: rest := rest | none
    return (.table path name, rest)
  | cs => do
    let (((path, name), j), rest) ← entry (value maxDepth) cs
    return (.entry path name j, rest)

/-- The statements of a text. -/
def statements (cs : List Char) : Option (List Statement) :=
  match skip cs with
  | [] => some []
  | front => match statement front with
    | none => none
    | some (s, rest) => match lineEnd rest with
      | none => none
      | some next =>
        if next.length < cs.length then (s :: ·) <$> statements next else none
termination_by cs.length

/-! ### Documents -/

/-- The tables of a document so far, and the path of the one that is open. -/
structure Draft where
  root : Table
  current : List String

/-- What a statement does to a document. -/
def Draft.apply (d : Draft) : Statement → Option Draft
  | .table path name => (d.root.openTable path name).map fun t => ⟨t, path ++ [name]⟩
  | .listed path name => (d.root.openListed path name).map fun t => ⟨t, path ++ [name]⟩
  | .entry path name j =>
    (d.root.change .longerHeader (fun t => t.addEntry path name (.value j)) d.current).map fun t =>
      ⟨t, d.current⟩

/-- The text without a mark of byte order at its front. -/
def dropMark : List Char → List Char
  | '\uFEFF' :: rest => rest
  | cs => cs

/-- The value of the document that a text writes. -/
def read (s : String) : Option Json := do
  let lines ← statements (dropMark s.toList)
  let draft ← lines.foldlM Draft.apply (⟨Table.empty .header, []⟩ : Draft)
  return draft.root.toJson

end RowFilter.Toml
