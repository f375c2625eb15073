import RowFilter.Query.Form
import RowFilter.Url.Host

/-! Web addresses in normal form: a scheme, maybe credentials, a host, maybe a port, a path, and
    maybe a query and a fragment. -/

namespace RowFilter

/-- A web address in normal form. All parts are as written, percent coding included. -/
structure Url where
  scheme : String
  /-- The name of a user, empty if there is none. -/
  user : String
  password : Option String
  host : Url.Host
  /-- The port, unless it is the usual one of the scheme. -/
  port : Option Nat
  path : String
  query : Option String
  fragment : Option String
  deriving DecidableEq, Repr, Inhabited

namespace Url

/-- A part of an address behind its mark, nothing if it is not there. -/
def marked (mark : String) : Option String → String
  | some part => mark ++ part
  | none => ""

/-- The credentials as they stand before the host. -/
def credentialsText (u : Url) : String :=
  if u.user.isEmpty && u.password.isNone then ""
  else u.user ++ marked ":" u.password ++ "@"

/-- The text of an address. -/
def text (u : Url) : String :=
  u.scheme ++ "://" ++ u.credentialsText ++ u.host.text ++ marked ":" (u.port.map Nat.repr) ++
    u.path ++ marked "?" u.query ++ marked "#" u.fragment

/-- The pairs of the query. -/
def pairs (u : Url) : List (String × String) :=
  match u.query with
  | some q => Form.read q.toList
  | none => []

/-- The address with a query of these pairs, without a query if there are none. -/
def withPairs (u : Url) (pairs : List (String × String)) : Url :=
  { u with query := if pairs.isEmpty then none else some (String.ofList (Form.write pairs)) }

/-- The name and password of a user, if the address has any. A name has to be a text; a password
    that is none counts as absent. -/
def credentials? (u : Url) : Option (String × Option String) := do
  let user ← Percent.decodeText? u.user.toList
  let password := u.password.bind fun p => Percent.decodeText? p.toList
  if user.isEmpty && password.isNone then none
  else some (String.ofList user, password.map String.ofList)

/-- The address without credentials. -/
def withoutCredentials (u : Url) : Url :=
  { u with user := "", password := none }

end Url

end RowFilter
