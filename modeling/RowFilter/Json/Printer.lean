import RowFilter.Json.Value
import RowFilter.Number.Notation

/-! The text of JSON documents, on one line or indented by two spaces a level. -/

namespace RowFilter.Json

/-- How a character is written inside a JSON string. -/
def escapedChar (c : Char) : List Char :=
  if c == '"' then ['\\', '"']
  else if c == '\\' then ['\\', '\\']
  else if c == '\n' then ['\\', 'n']
  else if c == '\r' then ['\\', 'r']
  else if c == '\t' then ['\\', 't']
  else if c.toNat == 0x08 then ['\\', 'b']
  else if c.toNat == 0x0C then ['\\', 'f']
  else if c.toNat < 0x20 then
    ['\\', 'u', '0', '0', Nat.digitChar (c.toNat / 16), Nat.digitChar (c.toNat % 16)]
  else [c]

/-- A text as a JSON string. -/
def quotedText (s : String) : List Char :=
  '"' :: s.toList.flatMap escapedChar ++ ['"']

/-- The text of a number. A number that is not finite has no text of its own and is written as
    null. -/
def numberText : JsonNumber → List Char
  | .integer i => Decimal.intText i
  | .double d => if d.isFinite then DoubleNotation.json.text d else "null".toList

/-! ### On one line -/

mutual
/-- The text of a document without blanks. -/
def compactChars (j : Json) : List Char :=
  match j with
  | .null => "null".toList
  | .bool b => if b then "true".toList else "false".toList
  | .number n => numberText n
  | .text s => quotedText s
  | .array items => '[' :: compactItems items ++ [']']
  | .object members => '\x7b' :: compactMembers members ++ ['\x7d']
termination_by structural j

/-- The items with commas between them. -/
def compactItems (items : List Json) : List Char :=
  match items with
  | [] => []
  | j :: rest => j.compactChars ++ (if rest.isEmpty then [] else ',' :: compactItems rest)
termination_by structural items

/-- The members with commas between them. -/
def compactMembers (members : List (String × Json)) : List Char :=
  match members with
  | [] => []
  | m :: rest => compactMember m ++ (if rest.isEmpty then [] else ',' :: compactMembers rest)
termination_by structural members

/-- A name and its value. -/
def compactMember (m : String × Json) : List Char :=
  match m with
  | (k, j) => quotedText k ++ ':' :: j.compactChars
termination_by structural m
end

/-- The text of a document on one line. -/
def compact (j : Json) : String :=
  String.ofList j.compactChars

/-! ### Indented -/

/-- A line break and the indentation of a level. -/
def newline (level : Nat) : List Char :=
  '\n' :: List.replicate (2 * level) ' '

mutual
/-- The text of a document at a level of indentation. Empty arrays and objects stay on one line. -/
def prettyChars (level : Nat) (j : Json) : List Char :=
  match j with
  | .null => "null".toList
  | .bool b => if b then "true".toList else "false".toList
  | .number n => numberText n
  | .text s => quotedText s
  | .array [] => ['[', ']']
  | .array (j :: rest) => '[' :: prettyItems (level + 1) (j :: rest) ++ newline level ++ [']']
  | .object [] => ['\x7b', '\x7d']
  | .object (m :: rest) =>
    '\x7b' :: prettyMembers (level + 1) (m :: rest) ++ newline level ++ ['\x7d']
termination_by structural j

/-- The items, each on a line of its own. -/
def prettyItems (level : Nat) (items : List Json) : List Char :=
  match items with
  | [] => []
  | j :: rest =>
    newline level ++ prettyChars level j ++
      (if rest.isEmpty then [] else ',' :: prettyItems level rest)
termination_by structural items

/-- The members, each on a line of its own. -/
def prettyMembers (level : Nat) (members : List (String × Json)) : List Char :=
  match members with
  | [] => []
  | m :: rest =>
    newline level ++ prettyMember level m ++
      (if rest.isEmpty then [] else ',' :: prettyMembers level rest)
termination_by structural members

/-- A name and its value at a level. -/
def prettyMember (level : Nat) (m : String × Json) : List Char :=
  match m with
  | (k, j) => quotedText k ++ ':' :: ' ' :: prettyChars level j
termination_by structural m
end

/-- The text of a document over several lines. -/
def pretty (j : Json) : String :=
  String.ofList (prettyChars 0 j)

end RowFilter.Json
