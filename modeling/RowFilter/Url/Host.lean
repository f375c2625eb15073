import RowFilter.Text.Composition
import RowFilter.Text.Lowercase
import RowFilter.Text.Percent
import RowFilter.Text.Punycode
import RowFilter.Url.HostTable
import RowFilter.Url.Ipv6

/-! Hosts of web addresses. A name is brought into lower case and composed form, and its parts with
    characters outside ASCII are written in Punycode. A name that ends in a number is an address. -/

namespace RowFilter.Url

/-- A host: a name in normal form, or a numbered address. -/
inductive Host where
  | name (text : String)
  | four (address : Nat)
  | six (groups : List Nat)
  deriving DecidableEq, Repr, Inhabited

namespace Host

/-- The text of a host. -/
def text : Host → String
  | .name s => s
  | .four address => Ipv4.text address
  | .six groups => "[" ++ Ipv6.text groups ++ "]"

/-! ### Names in all scripts -/

/-- The code points that a row of replacements gives for the one at a place. -/
def rowTarget (row : String) (place : Nat) : List Nat :=
  match (Text.split ' ' row.toList)[place]? with
  | some target => (Text.split '+' target).map fun digits => (Ipv4.valueIn? 16 digits).getD 0
  | none => []

/-- What stands for a character in a name, unless no name may hold it. -/
def mapChar? (c : Char) : Option (List Nat) :=
  let n := c.toNat
  if n < 0x80 then some [c.toLower.toNat]
  else if Text.inRanges hostRefused c then none
  else if Text.inRanges hostIgnored c then some []
  else match hostRuns.find? (·.covers n) with
    | some run => some [(n + run.shift).toNat]
    | none => match hostRows.find? fun row => row.1 ≤ n && n ≤ row.2.1 with
      | some (first, _, row) => some (rowTarget row (n - first))
      | none => some [n]

/-- The characters besides controls that end or divide the parts of an address. -/
def reserved : List Char :=
  [' ', '#', '/', ':', '<', '>', '?', '@', '[', '\\', ']', '^', '|']

/-- No name may hold the character: a control, or one that means something in an address. -/
def isForbidden (c : Char) : Bool :=
  c.toNat < 0x20 || c == '\x7F' || c == '%' || reserved.contains c

/-- The mark of a part in Punycode. -/
def punycodeMark : List Char := ['x', 'n', '-', '-']

/-- A part of a name in ASCII. Only a part in Punycode may begin with its mark. -/
def labelInAscii? (cs : List Char) : Option (List Char) :=
  if cs.all (·.toNat < 0x80) then some cs
  else if punycodeMark.isPrefixOf cs then none
  else some (punycodeMark ++ Punycode.encode (cs.map Char.toNat))

/-- A name in its normal form. -/
def normalName? (cs : List Char) : Option (List Char) := do
  let mapped ← cs.mapM mapChar?
  let name := (Text.composed mapped.flatten).map Char.ofNat
  if name.isEmpty || name.any isForbidden then none
  else
    let labels ← (Text.split '.' name).mapM labelInAscii?
    some (['.'].intercalate labels)

/-! ### Reading -/

/-- The address between brackets, if the text begins with one. -/
def bracketed? : List Char → Option (Option Host)
  | '[' :: rest => some <| match rest.reverse with
    | ']' :: inner => (Ipv6.ofText? inner.reverse).map .six
    | _ => none
  | _ => none

/-- The host of an address whose scheme gives names a meaning. -/
def ofText? (cs : List Char) : Option Host :=
  match bracketed? cs with
  | some host => host
  | none => do
    let name ← normalName? (← Percent.decodeText? cs)
    if Ipv4.isMeant name then (Ipv4.ofText? name).map .four
    else some (.name (String.ofList name))

/-- The host of an address with any other scheme: a name stays as it is. -/
def ofOpaqueText? (cs : List Char) : Option Host :=
  match bracketed? cs with
  | some host => host
  | none =>
    if cs.isEmpty || cs.any fun c => c == '\x00' || reserved.contains c then none
    else some (.name (String.ofList (Percent.encode [] cs)))

end Host

end RowFilter.Url
