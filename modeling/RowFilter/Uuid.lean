import RowFilter.Json.Reader

/-! Universally unique identifiers of 128 bits, written in hexadecimal groups of 8, 4, 4, 4 and 12
    digits. -/

namespace RowFilter

/-- A universally unique identifier as the number that its digits write. -/
structure Uuid where
  value : Nat
  deriving DecidableEq, Repr, Inhabited

namespace Uuid

/-- The number of bits is 128. -/
def isValid (u : Uuid) : Bool :=
  u.value < 2 ^ 128

/-- The lowest `count` hexadecimal digits of a number. -/
def hex : Nat → Nat → List Char
  | 0, _ => []
  | count + 1, n => hex count (n / 16) ++ [Nat.digitChar (n % 16)]

/-- The text of an identifier: lower-case groups with hyphens between them. -/
def chars (u : Uuid) : List Char :=
  let n := u.value
  hex 8 (n / 2 ^ 96) ++ '-' :: hex 4 (n / 2 ^ 80) ++ '-' :: hex 4 (n / 2 ^ 64) ++
    '-' :: hex 4 (n / 2 ^ 48) ++ '-' :: hex 12 n

/-- The text of an identifier. -/
def text (u : Uuid) : String :=
  String.ofList u.chars

/-- The number that hexadecimal digits write, the number so far in front of them. -/
def ofHex? (n : Nat) : List Char → Option Nat
  | [] => some n
  | c :: rest => do ofHex? (16 * n + (← Json.hexDigit? c)) rest

/-- The digits of a text with hyphens behind the 8th, 12th, 16th and 20th of them. -/
def ungrouped? (cs : List Char) : Option (List Char) :=
  let hyphenAt (n : Nat) : Bool := cs[n]? == some '-'
  if cs.length == 36 && hyphenAt 8 && hyphenAt 13 && hyphenAt 18 && hyphenAt 23 then
    some (cs.take 8 ++ (cs.drop 9).take 4 ++ (cs.drop 14).take 4 ++ (cs.drop 19).take 4 ++
      cs.drop 24)
  else none

/-- The word that may stand before a grouped identifier, in any case of letters. -/
def scheme : List Char := "urn:uuid:".toList

/-- The digits of an identifier in any of its forms: 32 digits, grouped with hyphens, and grouped in
    braces or behind its scheme. -/
def digits? (cs : List Char) : Option (List Char) :=
  if cs.length == 32 then some cs
  else if cs.length == 38 && cs.head? == some '\x7b' && cs.getLast? == some '\x7d' then
    ungrouped? (cs.drop 1).dropLast
  else if (cs.take scheme.length).map Char.toLower == scheme then
    ungrouped? (cs.drop scheme.length)
  else ungrouped? cs

/-- The identifier that a text writes. -/
def ofChars? (cs : List Char) : Option Uuid := do
  return ⟨← ofHex? 0 (← digits? cs)⟩

end Uuid

end RowFilter
