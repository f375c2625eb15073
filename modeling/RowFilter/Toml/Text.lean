import RowFilter.Json.Reader

/-! Comments, keys and strings of TOML documents. -/

namespace RowFilter.Toml

/-! ### Blanks and comments -/

/-- The blanks within a line. -/
def isSpace (c : Char) : Bool :=
  c == ' ' || c == '\t'

/-- The line without leading blanks. -/
def skipSpace (cs : List Char) : List Char :=
  cs.dropWhile isSpace

/-- A character that comments and strings may hold: no control but the tabulator. -/
def isPrintable (c : Char) : Bool :=
  c == '\t' || (0x20 ≤ c.toNat && c.toNat != 0x7F)

/-- The text without leading blanks, line breaks and comments; `inside` a comment it begins. -/
def skipFrom (inside : Bool) : List Char → List Char
  | [] => []
  | '\n' :: rest => skipFrom false rest
  | '\r' :: '\n' :: rest => skipFrom false rest
  | c :: rest =>
    if inside then if isPrintable c then skipFrom true rest else c :: rest
    else if isSpace c then skipFrom false rest
    else if c == '#' then skipFrom true rest
    else c :: rest

/-- The text without leading blanks, line breaks and comments. -/
def skip (cs : List Char) : List Char :=
  skipFrom false cs

/-- Takes the end of a line off the front: blanks, a comment, and a line break unless the text
    ends. -/
def lineEnd (cs : List Char) : Option (List Char) :=
  let rest := skipSpace cs
  let rest := match rest with
    | '#' :: more => more.dropWhile isPrintable
    | _ => rest
  match rest with
  | [] => some []
  | '\n' :: more => some more
  | '\r' :: '\n' :: more => some more
  | _ => none

/-! ### Strings -/

/-- The character of a code, unless it is none. -/
def charOf? (n : Nat) : Option Char :=
  if n.isValidChar then some (Char.ofNat n) else none

/-- The character that a backslash and a letter stand for. -/
def shortEscape? (c : Char) : Option Char :=
  if c == '"' || c == '\\' then some c
  else if c == 'n' then some '\n'
  else if c == 'r' then some '\r'
  else if c == 't' then some '\t'
  else if c == 'b' then some '\x08'
  else if c == 'f' then some '\x0c'
  else none

/-- The line ends, but for blanks. -/
def isBlankLine (cs : List Char) : Bool :=
  match skipSpace cs with
  | '\n' :: _ => true
  | '\r' :: '\n' :: _ => true
  | _ => false

/-- The characters that the written form of a string stands for. A backslash at the end of a line
    takes all blanks and line breaks behind it away; while they are, `joining` holds. -/
def unescape (joining : Bool) : List Char → Option (List Char)
  | [] => some []
  | '\\' :: 'u' :: a :: b :: c :: d :: rest => do
    let n ← Json.hex4? a b c d
    return (← charOf? n) :: (← unescape false rest)
  | '\\' :: 'U' :: a :: b :: c :: d :: e :: f :: g :: h :: rest => do
    let n := (← Json.hex4? a b c d) * 0x10000 + (← Json.hex4? e f g h)
    return (← charOf? n) :: (← unescape false rest)
  | '\\' :: c :: rest =>
    if isBlankLine (c :: rest) then unescape true rest
    else do
      return (← shortEscape? c) :: (← unescape false rest)
  | c :: rest =>
    if joining && (isSpace c || c == '\n' || c == '\r') then unescape true rest
    else (unescape false rest).map (c :: ·)

/-- The written form of a string up to its closing quote. -/
def basicBody : Reader (List Char)
  | [] => none
  | '"' :: rest => some ([], rest)
  | '\\' :: c :: rest =>
    if isPrintable c then (basicBody rest).map fun (body, more) => ('\\' :: c :: body, more)
    else none
  | c :: rest =>
    if isPrintable c then (basicBody rest).map fun (body, more) => (c :: body, more) else none

/-- What follows three closing quotes: up to two more quotes belong to the string. -/
def closingQuotes (quote : Char) : List Char → List Char × List Char
  | c :: d :: rest =>
    if c == quote && d == quote then ([c, d], rest)
    else if c == quote then ([c], d :: rest)
    else ([], c :: d :: rest)
  | [c] => if c == quote then ([c], []) else ([], [c])
  | [] => ([], [])

/-- The written form of a string over several lines up to its closing quotes; `escapes` says whether
    a backslash has a meaning in it. -/
def longBody (quote : Char) (escapes : Bool) : Reader (List Char)
  | [] => none
  | '\r' :: '\n' :: rest =>
    (longBody quote escapes rest).map fun (body, more) => ('\n' :: body, more)
  | c :: rest =>
    if c == quote && rest.take 2 == [quote, quote] then some (closingQuotes quote (rest.drop 2))
    else if escapes && c == '\\' then match rest with
      | d :: rest => (longBody quote escapes rest).map fun (body, more) => (c :: d :: body, more)
      | [] => none
    else if isPrintable c || c == '\n' then
      (longBody quote escapes rest).map fun (body, more) => (c :: body, more)
    else none

/-- The text without one leading line break. -/
def dropLineBreak : List Char → List Char
  | '\n' :: rest => rest
  | '\r' :: '\n' :: rest => rest
  | cs => cs

/-- A string on one line. -/
def lineString : Reader String
  | '"' :: rest => do
    let (body, more) ← basicBody rest
    return (String.ofList (← unescape false body), more)
  | '\'' :: rest =>
    let body := rest.takeWhile fun c => isPrintable c && c != '\''
    match rest.drop body.length with
    | '\'' :: more => some (String.ofList body, more)
    | _ => none
  | _ => none

/-- A string. -/
def string : Reader String
  | '"' :: '"' :: '"' :: rest => do
    let (body, more) ← longBody '"' true (dropLineBreak rest)
    return (String.ofList (← unescape false body), more)
  | '\'' :: '\'' :: '\'' :: rest =>
    (longBody '\'' false (dropLineBreak rest)).map fun (body, more) => (String.ofList body, more)
  | cs => lineString cs

/-! ### Keys -/

/-- A character of a bare key. -/
def isKeyChar (c : Char) : Bool :=
  c.isAlphanum || c == '_' || c == '-'

/-- A part of a key: bare or a string on one line. -/
def keyPart (cs : List Char) : Option (String × List Char) :=
  let bare := cs.takeWhile isKeyChar
  if bare.isEmpty then lineString cs else some (String.ofList bare, cs.drop bare.length)

/-- A key: parts with dots between them, and blanks around each. -/
def keyFrom (cs : List Char) : Option (List String × List Char) :=
  match keyPart (skipSpace cs) with
  | none => none
  | some (part, rest) => match skipSpace rest with
    | '.' :: more =>
      if more.length < cs.length then (keyFrom more).map fun (parts, r) => (part :: parts, r)
      else none
    | rest => some ([part], rest)
termination_by cs.length

/-- The greatest number of parts of a key. -/
def maxParts : Nat := 79

/-- A key: the parts before the last one, and the last one. -/
def key (cs : List Char) : Option ((List String × String) × List Char) := do
  let (parts, rest) ← keyFrom cs
  let last ← parts.getLast?
  if parts.length ≤ maxParts then some ((parts.dropLast, last), rest) else none

end RowFilter.Toml
