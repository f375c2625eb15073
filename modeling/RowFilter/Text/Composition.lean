import RowFilter.Text.CompositionTable

/-! The composed form of a text: characters are taken apart into a base and its marks, the marks are
    put into the order of their classes, and what makes one character is put together again. So
    texts that differ only in how their characters are composed become one. -/

namespace RowFilter.Text

/-- The combining class of a code point: zero for a base, the position of a mark otherwise. -/
def combiningClass (n : Nat) : Nat :=
  match combiningClasses.find? fun r => r.1 ≤ n && n ≤ r.2.1 with
  | some (_, _, k) => k
  | none => 0

/-! ### Syllables of Hangul -/

/-- The first syllable, and the first of the letters that lead one, stand inside it and end it. The
    last one stands for no end. -/
def hangulSyllable : Nat := 0xAC00
def hangulLead : Nat := 0x1100
def hangulVowel : Nat := 0x1161
def hangulTail : Nat := 0x11A7

/-- How many letters there are of each sort, no end being one. -/
def hangulLeads : Nat := 19
def hangulVowels : Nat := 21
def hangulTails : Nat := 28

/-- The place of a code point in a block, if it is there. -/
def placeIn (first count n : Nat) : Option Nat :=
  if first ≤ n && n < first + count then some (n - first) else none

/-- The parts of a syllable: a syllable without an end and the end, or two letters. -/
def hangulParts? (n : Nat) : Option (Nat × Nat) :=
  (placeIn hangulSyllable (hangulLeads * hangulVowels * hangulTails) n).map fun k =>
    if k % hangulTails = 0 then
      (hangulLead + k / hangulTails / hangulVowels, hangulVowel + k / hangulTails % hangulVowels)
    else (n - k % hangulTails, hangulTail + k % hangulTails)

/-- The syllable of two parts. -/
def hangulWhole? (a b : Nat) : Option Nat :=
  match placeIn hangulLead hangulLeads a, placeIn hangulVowel hangulVowels b with
  | some l, some v => some (hangulSyllable + (l * hangulVowels + v) * hangulTails)
  | _, _ => do
    let k ← placeIn hangulSyllable (hangulLeads * hangulVowels * hangulTails) a
    let t ← placeIn hangulTail hangulTails b
    if k % hangulTails = 0 && t != 0 then some (a + t) else none

/-! ### Parts and wholes -/

/-- The two parts of a composed code point. -/
def parts? (n : Nat) : Option (Nat × Nat) :=
  (hangulParts? n).or <| compositions.findSome? fun (second, wholes) =>
    (wholes.find? fun w => w.2 == n).map fun w => (w.1, second)

/-- The code point that two others compose. -/
def whole? (a b : Nat) : Option Nat :=
  (hangulWhole? a b).or <| (compositions.lookup b).bind fun wholes => wholes.lookup a

/-- No code point comes apart more often than this, one part after the other. -/
def maxParts : Nat := 4

/-- The parts of a code point that come no further apart, after at most so many steps. -/
def apart : Nat → Nat → List Nat
  | 0, n => [n]
  | steps + 1, n => match parts? n with
    | some (a, b) => apart steps a ++ apart steps b
    | none => [n]

/-- Puts a code point in front of others, behind the marks of lower classes if it is a mark. -/
def insertMark (n : Nat) : List Nat → List Nat
  | [] => [n]
  | m :: rest =>
    if combiningClass m != 0 && combiningClass m < combiningClass n then m :: insertMark n rest
    else n :: m :: rest

/-- Puts the marks behind every base into the order of their classes. -/
def ordered (ns : List Nat) : List Nat :=
  ns.foldr insertMark []

/-- Composes a base with what follows; `marks` are those behind it that did not go into it, the last
    one first. A mark reaches the base unless one of its own or a higher class stands between. -/
def composeOn (base : Nat) (marks : List Nat) : List Nat → List Nat
  | [] => base :: marks.reverse
  | n :: rest =>
    let reaches := match marks with
      | [] => true
      | m :: _ => combiningClass m < combiningClass n
    match if reaches then whole? base n else none with
    | some w => composeOn w marks rest
    | none =>
      if combiningClass n = 0 then base :: marks.reverse ++ composeOn n [] rest
      else composeOn base (n :: marks) rest

/-- Composes ordered parts. Marks before the first base stay as they are. -/
def compose : List Nat → List Nat
  | [] => []
  | n :: rest => if combiningClass n = 0 then composeOn n [] rest else n :: compose rest

/-- The composed form of code points none of which is a mere variant of others. -/
def composed (ns : List Nat) : List Nat :=
  compose (ordered (ns.flatMap (apart maxParts)))

end RowFilter.Text
