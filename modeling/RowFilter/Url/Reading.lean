import RowFilter.Url.Basic
import RowFilter.Url.Path

/-! Reading of web addresses. Blanks around an address and line breaks in it do not count. A known
    scheme has a usual port, takes backslashes for slashes, and gives a meaning to the names of
    hosts. -/

namespace RowFilter.Url

/-- The known schemes, each with its usual port if it has ports. -/
def schemes : List (String × Option Nat) :=
  [("http", some 80), ("https", some 443), ("ws", some 80), ("wss", some 443), ("ftp", some 21),
   ("file", none)]

/-- The scheme in which files are named. It has neither ports nor credentials. -/
def fileScheme : String := "file"

/-- The scheme is known. -/
def isKnown (scheme : String) : Bool :=
  (schemes.lookup scheme).isSome

/-- The characters of an address that count: no controls or spaces around it, and no tabs or line
    breaks at all. -/
def significant (cs : List Char) : List Char :=
  let front := cs.dropWhile (· ≤ ' ')
  (front.reverse.dropWhile (· ≤ ' ')).reverse.filter fun c => c != '\t' && c != '\n' && c != '\r'

/-- The scheme in front of a colon, in lower case, and what follows. -/
def cutScheme? (cs : List Char) : Option (String × List Char) :=
  match Text.cut ':' cs with
  | (c :: scheme, some rest) =>
    if c.isAlpha && scheme.all fun c => c.isAlphanum || c == '+' || c == '-' || c == '.' then
      some (String.ofList ((c :: scheme).map Char.toLower), rest)
    else none
  | _ => none

/-- What divides segments under a scheme. -/
def isSlash (scheme : String) (c : Char) : Bool :=
  c == '/' || (isKnown scheme && c == '\\')

/-- The text behind the slashes in front of a host: as many as there are, or two if the scheme is
    not known or names files. -/
def skipSlashes? (scheme : String) (cs : List Char) : Option (List Char) :=
  if isKnown scheme && scheme != fileScheme then some (cs.dropWhile (isSlash scheme))
  else match cs with
    | a :: b :: rest => if isSlash scheme a && isSlash scheme b then some rest else none
    | _ => none

/-! ### Credentials, host and port -/

/-- The characters that credentials write encoded. -/
def reservedInCredentials : List Char :=
  Path.reserved ++ ['/', ':', ';', '=', '@', '[', '\\', ']', '^', '|']

/-- The text before the last at sign, and the one behind it, if there is such a sign. -/
def cutLastAt? : List Char → Option (List Char × List Char)
  | [] => none
  | c :: rest =>
    match cutLastAt? rest with
    | some (front, back) => some (c :: front, back)
    | none => if c == '@' then some ([], rest) else none

/-- The name and password that a text before an at sign writes. An empty password is none. -/
def readCredentials (cs : List Char) : String × Option String :=
  let written (cs : List Char) := String.ofList (Percent.encode reservedInCredentials cs)
  match Text.cut ':' cs with
  | (user, some password) =>
    (written user, if password.isEmpty then none else some (written password))
  | (user, none) => (written user, none)

/-- The text of a host, which ends at a colon outside brackets, and what follows. -/
def cutHost (inBrackets : Bool) : List Char → List Char × List Char
  | [] => ([], [])
  | c :: rest =>
    if c == ':' && !inBrackets then ([], c :: rest)
    else
      match cutHost (c == '[' || (inBrackets && c != ']')) rest with
      | (front, back) => (c :: front, back)

/-- The port that digits write; without digits there is none. -/
def readPort? (digits : List Char) : Option (Option Nat) :=
  if digits.isEmpty then some none
  else do
    let n ← Ipv4.valueIn? 10 digits
    if n < 2 ^ 16 then some (some n) else none

/-- The port behind a host, if any, and what follows it: nothing, or a path from a backslash on. The
    usual port of the scheme counts as none. -/
def portBehind? (scheme : String) : List Char → Option (Option Nat × List Char)
  | ':' :: rest => do
    let digits := rest.takeWhile Char.isDigit
    let path := rest.drop digits.length
    let port ← readPort? digits
    if path.isEmpty || path.head? == some '\\' then
      return (port.filter fun n => schemes.lookup scheme != some (some n), path)
    else none
  | path => some (none, path)

/-- The host that a text names under a scheme. -/
def readHost? (scheme : String) (cs : List Char) : Option Host :=
  if isKnown scheme then Host.ofText? cs else Host.ofOpaqueText? cs

/-- Credentials, host and port of an address. -/
structure Authority where
  user : String
  password : Option String
  host : Host
  port : Option Nat

/-- The authority that a text writes, and the path that follows its port. -/
def Authority.ofText? (scheme : String) (cs : List Char) : Option (Authority × List Char) := do
  let (credentials, rest) := (cutLastAt? cs).getD ([], cs)
  let (user, password) := readCredentials credentials
  let (host, rest) := cutHost false rest
  let (port, path) ← portBehind? scheme rest
  return (⟨user, password, ← readHost? scheme host, port⟩, path)

/-- The host of files that a text writes. The machine itself and a drive are no hosts. -/
def Authority.ofFileText? (cs : List Char) : Option Authority := do
  let host ← Host.ofText? cs
  if Path.isDrive cs || host = .name "localhost" then none
  else return ⟨"", none, host, none⟩

/-! ### Path, query and fragment -/

/-- The characters that a query writes encoded. -/
def reservedInQuery (scheme : String) : List Char :=
  [' ', '"', '#', '<', '>'] ++ (if isKnown scheme then ['\''] else [])

/-- The characters that a fragment writes encoded. -/
def reservedInFragment : List Char :=
  [' ', '"', '<', '>', '\x60']

/-- The path that a text writes. Only under a scheme that is not known it may be empty. Among files,
    a path from a drive has no host, and no empty segments lead. -/
def readPath? (scheme : String) (cs : List Char) : Option String :=
  let cs := cs.map fun c => if isSlash scheme c then '/' else c
  let segments := Path.ofText cs
  if cs.isEmpty && !isKnown scheme then some ""
  else if scheme == fileScheme then
    if segments.head?.any Path.isDrive then none
    else
      let rest := segments.dropWhile List.isEmpty
      some (Path.text (if rest.isEmpty then [[]] else rest))
  else some (Path.text segments)

/-- The address that a text writes. -/
def ofText? (s : String) : Option Url := do
  let (scheme, rest) ← cutScheme? (significant s.toList)
  let (rest, fragment) := Text.cut '#' (← skipSlashes? scheme rest)
  let (rest, query) := Text.cut '?' rest
  let authority := rest.takeWhile fun c => !isSlash scheme c
  let (a, path) ← if scheme == fileScheme then (Authority.ofFileText? authority).map (·, [])
    else Authority.ofText? scheme authority
  return {
    scheme := scheme
    user := a.user
    password := a.password
    host := a.host
    port := a.port
    path := ← readPath? scheme (path ++ rest.drop authority.length)
    query := query.map fun cs => String.ofList (Percent.encode (reservedInQuery scheme) cs)
    fragment := fragment.map fun cs => String.ofList (Percent.encode reservedInFragment cs) }

end RowFilter.Url
