import RowFilter.Filter.Operator

/-! Text patterns. In a pattern `%` stands for any run of characters and `_` for any one character,
    and a backslash takes the next character as it is. Patterns are built from a text that is looked
    for, recognised again, and matched against whole texts. A pattern that is too large to be prepared
    for matching matches nothing. -/

namespace RowFilter.Pattern

/-- A part of a pattern. -/
inductive Token where
  | literal (c : Char)
  | anyRun
  | anyChar
  deriving DecidableEq, Repr

/-- The character that takes the next one as it is. -/
def escapeChar : Char := '\\'

/-- The parts of a pattern. A backslash at the end stands for itself. -/
def tokens : List Char → List Token
  | [] => []
  | '\\' :: [] => [.literal escapeChar]
  | '\\' :: c :: rest => .literal c :: tokens rest
  | '%' :: rest => .anyRun :: tokens rest
  | '_' :: rest => .anyChar :: tokens rest
  | c :: rest => .literal c :: tokens rest

/-- The character means something else than itself in a pattern. -/
def isSpecial (c : Char) : Bool :=
  c == '%' || c == '_' || c == escapeChar

/-- The pattern that a text alone matches. -/
def escape (cs : List Char) : List Char :=
  cs.flatMap fun c => if isSpecial c then [escapeChar, c] else [c]

/-- The pattern of the texts that hold a text at some place. -/
def anchored (a : Anchor) (s : String) : String :=
  let literal := escape s.toList
  String.ofList <| match a with
    | .anywhere => '%' :: literal ++ ['%']
    | .front => literal ++ ['%']
    | .back => '%' :: literal

/-- The characters of tokens that are all literal. -/
def literals? : List Token → Option (List Char)
  | [] => some []
  | .literal c :: rest => (literals? rest).map (c :: ·)
  | _ => none

/-- The place and the text that a pattern looks for, if a run of any characters stands at its front,
    its back or both, and all else in it is literal. A run alone counts as standing at the front. -/
def classify (pattern : String) : Option (Anchor × String) :=
  let all := tokens pattern.toList
  let leading := all.head? == some .anyRun
  let body := if leading then all.tail else all
  let trailing := body.getLast? == some .anyRun
  let body := if trailing then body.dropLast else body
  match literals? body, leading, trailing with
  | some cs, true, true => some (.anywhere, String.ofList cs)
  | some cs, false, true => some (.front, String.ofList cs)
  | some cs, true, false => some (.back, String.ofList cs)
  | _, _, _ => none

/-! ### Matching -/

/-- For every end part of a text, longest first, whether the tokens match it; `next` holds this for
    the tokens behind the first one. -/
def matchToken (t : Token) : List Char → List Bool → List Bool
  | c :: cs, here :: next =>
    let rest := matchToken t cs next
    let now := match t with
      | .literal d => c == d && next.headD false
      | .anyChar => next.headD false
      | .anyRun => here || rest.headD false
    now :: rest
  | _, here :: _ => [t == .anyRun && here]
  | _, [] => []

/-- For every end part of a text, longest first, whether the tokens match it. -/
def matchRow (cs : List Char) : List Token → List Bool
  | [] => cs.map (fun _ => false) ++ [true]
  | t :: ts => matchToken t cs (matchRow cs ts)

/-- The tokens match the whole text. -/
def matchTokens (ts : List Token) (s : String) : Bool :=
  (matchRow s.toList ts).headD false

/-! ### Size

A pattern is matched by a machine on the octets of a text, which exists twice: for reading forward
and for reading backward. Its size is counted in octets of memory. A state takes 32; a transition
out of a state with several takes 8 forward, and the number of a state 4. -/

/-- The size of the states for one character of any kind, reading forward: the eight states that
    tell the forms of a character in UTF-8 apart, their sixteen transitions, and an end. -/
def anyCharForward : Nat := 9 * 32 + 16 * 8

/-- The size of the states for one character of any kind, reading backward: a state for each of the
    27 octets in the nine forms of a character in UTF-8, a choice between the forms, and an end. -/
def anyCharBackward : Nat := 27 * 32 + (32 + 9 * 4) + 32

/-- The size of the choice between one more character of a run and the end of the run. -/
def choiceSize : Nat := 32 + 2 * 4

/-- The size of a token, reading forward. -/
def forwardSize : Token → Nat
  | .literal c => 32 * c.utf8Size
  | .anyChar => anyCharForward
  | .anyRun => choiceSize + anyCharForward

/-- The size of a token, reading backward. -/
def backwardSize : Token → Nat
  | .literal c => 32 * c.utf8Size
  | .anyChar => anyCharBackward
  | .anyRun => choiceSize + anyCharBackward

/-- No machine is larger. -/
def maxSize : Nat := 10 * 2 ^ 20

/-- Both machines of some tokens are small enough. Besides the tokens they hold an entrance, the two
    ends of the text and a match; forward also the two ends of what is matched. -/
def fits (ts : List Token) : Bool :=
  ts.foldl (fun n t => n + forwardSize t) (6 * 32) ≤ maxSize &&
    ts.foldl (fun n t => n + backwardSize t) (4 * 32) ≤ maxSize

/-- The tokens of a pattern, unless it is too large. -/
def prepare? (pattern : String) : Option (List Token) :=
  let ts := tokens pattern.toList
  if fits ts then some ts else none

/-- The pattern matches the whole text. -/
def matchText (pattern s : String) : Bool :=
  match prepare? pattern with
  | some ts => matchTokens ts s
  | none => false

end RowFilter.Pattern
