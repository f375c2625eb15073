import RowFilter.Json.Reader
import RowFilter.Text.Split

/-! Addresses of four octets. They are read from one to four numbers, the last of which fills all
    octets that the others leave, and written as four decimal numbers with dots between them. -/

namespace RowFilter.Url.Ipv4

/-- The number that digits of a base write. -/
def valueIn? (base : Nat) (digits : List Char) : Option Nat :=
  digits.foldlM (fun n c => do
    let d ← Json.hexDigit? c
    if d < base then some (n * base + d) else none) 0

/-- The number that a part of an address writes: hexadecimal behind `0x`, octal behind another
    zero, and decimal otherwise. -/
def part? : List Char → Option Nat
  | [] => none
  | '0' :: 'x' :: digits => valueIn? 16 digits
  | '0' :: digits => valueIn? 8 digits
  | digits => valueIn? 10 digits

/-- The parts of a name without an empty one at the end. -/
def parts (name : List Char) : List (List Char) :=
  match (Text.split '.' name).reverse with
  | [] :: front => front.reverse
  | all => all.reverse

/-- The name is meant as an address: its last part is a number, or digits at least. -/
def isMeant (name : List Char) : Bool :=
  match (parts name).getLast? with
  | some last => (!last.isEmpty && last.all Char.isDigit) || (part? last).isSome
  | none => false

/-- The address of some numbers: an octet for each but the last. -/
def ofNumbers? (numbers : List Nat) : Option Nat :=
  match numbers.reverse with
  | [] => none
  | last :: front =>
    let room := 256 ^ (4 - front.length)
    if front.length < 4 && front.all (· < 256) && last < room then
      some (front.foldr (fun b n => n * 256 + b) 0 * room + last)
    else none

/-- The address that a name writes. -/
def ofText? (name : List Char) : Option Nat := do
  ofNumbers? (← (parts name).mapM part?)

/-- The octets of an address, the highest one first. -/
def octets (address : Nat) : List Nat :=
  [address / 256 ^ 3 % 256, address / 256 ^ 2 % 256, address / 256 % 256, address % 256]

/-- The text of an address. -/
def text (address : Nat) : String :=
  String.intercalate "." ((octets address).map Nat.repr)

end RowFilter.Url.Ipv4
