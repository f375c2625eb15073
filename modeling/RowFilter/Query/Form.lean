import RowFilter.Text.Percent
import RowFilter.Text.Split

/-! Query strings in form encoding: named values with `=` between name and value and `&` between
    pairs, a plus sign for a space, and percent coding of octets of UTF-8. -/

namespace RowFilter.Form

/-- The text that an encoded one stands for. -/
def decode (cs : List Char) : String :=
  String.ofList <| Text.ofOctets <| Percent.decode <|
    (Text.octets cs).map fun b => if b = 0x2B then 0x20 else b

/-- A character that stands for itself: an ASCII letter or digit, or one of four marks. -/
def isPlain (c : Char) : Bool :=
  c.isAlphanum || c == '*' || c == '-' || c == '.' || c == '_'

/-- The encoded form of a character. -/
def encodeChar (c : Char) : List Char :=
  if c == ' ' then ['+']
  else if isPlain c then [c]
  else (Text.charOctets c).flatMap Percent.encodeOctet

/-- The encoded form of a text. -/
def encode (s : String) : List Char :=
  s.toList.flatMap encodeChar

/-- The pair that a part of a query string writes. Without `=` the value is empty. -/
def readPair (part : List Char) : String × String :=
  match Text.cut '=' part with
  | (name, value) => (decode name, decode (value.getD []))

/-- The pairs of a query string. -/
def read (cs : List Char) : List (String × String) :=
  ((Text.split '&' cs).filter fun part => !part.isEmpty).map readPair

/-- A pair in encoded form. -/
def writePair (p : String × String) : List Char :=
  encode p.1 ++ '=' :: encode p.2

/-- The query string of some pairs. -/
def write (pairs : List (String × String)) : List Char :=
  match pairs with
  | [] => []
  | [p] => writePair p
  | p :: rest => writePair p ++ '&' :: write rest

end RowFilter.Form
