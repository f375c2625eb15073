import RowFilter.Json.Reader

/-! Reading the documents of filters where they stand in a text. Members that a condition or a group
    does not have are passed over by their form and dropped, so a filter may be read from a text that
    is no JSON document as a whole: a number that is passed over may be too large, a string may hold
    half a surrogate pair, and there is no limit to its depth. -/

namespace RowFilter.LooseReading

/-- The members of a condition. -/
def conditionNames : List String := ["field", "operator", "value"]

/-- The members of a group, but for its right side. -/
def groupNames : List String :=
  ["operator", "groupOperator", "operations", "groupOperations", "nonPriorityGroupOperators",
    "nonPriorityOperators"]

/-- The member that holds the right side of a group. -/
def rightSideName : String := "rightSideOperands"

/-- A member that is read by the reader of its name, or passed over. -/
def member (readers : String → Option (Reader Json)) : Reader (Option (String × Json)) := fun cs => do
  let '"' :: rest := Json.skip cs | none
  let (name, rest) ← Json.stringTail rest
  let ':' :: rest := Json.skip rest | none
  match readers name with
  | some reader => (reader rest).map fun (j, more) => (some (name, j), more)
  | none => (Json.pass rest.length rest).map fun (_, more) => (none, more)

/-- An object with the members that have readers. -/
def object (readers : String → Option (Reader Json)) : Reader Json := fun cs =>
  (Json.listed (member readers) '\x7d' cs).map fun (members, more) =>
    (.object (members.filterMap id), more)

/-- The elements of an array up to its closing bracket, each read by the reader of its place. -/
def places : List (Reader Json) → Reader (List Json)
  | [] => fun _ => none
  | reader :: readers => fun cs => do
    let (j, rest) ← reader cs
    match Json.skip rest with
    | ']' :: more => return ([j], more)
    | ',' :: more => (places readers more).map fun (js, r) => (j :: js, r)
    | _ => none

/-- A condition, arrays and objects at most `depth` deep inside one another. -/
def condition : Nat → Reader Json
  | 0 => Json.value 0
  | depth + 1 => fun cs =>
    match Json.skip cs with
    | '\x7b' :: rest =>
      object (fun name => if conditionNames.contains name then some (Json.value depth) else none) rest
    | cs => Json.value (depth + 1) cs

/-- A list of conditions, or one. -/
def conditions : Nat → Reader Json
  | 0 => Json.value 0
  | depth + 1 => fun cs =>
    match Json.skip cs with
    | '[' :: rest =>
      (Json.listed (condition depth) ']' rest).map fun (items, more) => (.array items, more)
    | cs => condition (depth + 1) cs

/-- A group, arrays and objects at most `depth` deep inside one another. -/
def group : Nat → Reader Json
  | 0 => Json.value 0
  | depth + 1 => fun cs =>
    match Json.skip cs with
    | '\x7b' :: rest =>
      object (fun name =>
        if groupNames.contains name then some (Json.value depth)
        else if name == rightSideName then some (group depth)
        else none) rest
    | '[' :: rest =>
      (places [Json.value depth, Json.value depth, Json.value depth, group depth] rest).map
        fun (items, more) => (.array items, more)
    | cs => Json.value (depth + 1) cs

end RowFilter.LooseReading
