import RowFilter.Url.Ipv4

/-! Addresses of eight groups of sixteen bits, written as hexadecimal numbers with colons between
    them. Two colons stand for groups that are zero; the text of an address has them in place of
    the first of the longest runs of zeros. -/

namespace RowFilter.Url.Ipv6

/-- How many groups an address has. -/
def groupCount : Nat := 8

/-- The number that a group writes in one to four digits. -/
def group? (digits : List Char) : Option Nat :=
  if digits.isEmpty || 4 < digits.length then none else Ipv4.valueIn? 16 digits

/-- The octet that a decimal number without leading zeros writes. -/
def octet? : List Char → Option Nat
  | [] | '0' :: _ :: _ => none
  | digits => (Ipv4.valueIn? 10 digits).filter (· < 256)

/-- The last groups that a text writes: one, or two as the four octets of a dotted address. -/
def lastGroups? (cs : List Char) : Option (List Nat) :=
  if cs.contains '.' then do
    match ← (Text.split '.' cs).mapM octet? with
    | [a, b, c, d] => some [a * 256 + b, c * 256 + d]
    | _ => none
  else (group? cs).map ([·])

/-- The groups that texts write, where a dotted address may be the last. -/
def groups? : List (List Char) → Option (List Nat)
  | [] => some []
  | [last] => lastGroups? last
  | digits :: rest => do return (← group? digits) :: (← groups? rest)

/-- The text before the first two colons in a row, and the one behind them if they are there. -/
def cutZeros : List Char → List Char × Option (List Char)
  | [] => ([], none)
  | ':' :: ':' :: rest => ([], some rest)
  | c :: rest =>
    match cutZeros rest with
    | (front, back) => (c :: front, back)

/-- The parts between colons, none of an empty text. -/
def parts (cs : List Char) : List (List Char) :=
  if cs.isEmpty then [] else Text.split ':' cs

/-- The address that a text writes, as its groups. -/
def ofText? (cs : List Char) : Option (List Nat) :=
  match cutZeros cs with
  | (all, none) => (groups? (parts all)).filter (·.length = groupCount)
  | (front, some back) => do
    let front ← (parts front).mapM group?
    let back ← groups? (parts back)
    let given := front.length + back.length
    if given < groupCount then
      some (front ++ List.replicate (groupCount - given) 0 ++ back)
    else none

/-- Groups with colons between them. -/
def joined (groups : List Nat) : String :=
  String.intercalate ":" (groups.map fun g => String.ofList (Nat.toDigits 16 g))

/-- For each place, how many groups from there on are zero. -/
def zeroRuns (groups : List Nat) : List Nat :=
  (List.range groups.length).map fun k => ((groups.drop k).takeWhile (· == 0)).length

/-- The text of an address. A single zero is written out. -/
def text (groups : List Nat) : String :=
  match (zeroRuns groups).max? with
  | some n =>
    if 2 ≤ n then
      let k := (zeroRuns groups).idxOf n
      joined (groups.take k) ++ "::" ++ joined (groups.drop (k + n))
    else joined groups
  | none => ""

end RowFilter.Url.Ipv6
