import RowFilter.Filter.Encoding
import RowFilter.Text.Base64
import RowFilter.Url.Basic

/-! Outgoing requests. A filter travels in the query of the address, and replaces any filter that is
    there already. -/

namespace RowFilter

/-- A request that is ready to be sent: a method, an address, headers by name, and a document as its
    body. -/
structure Request where
  method : String
  url : Url
  headers : Keyed String
  body : Json
  deriving DecidableEq, Repr, Inhabited

namespace Request

/-- The name is one of the parameters that carry filters. -/
def isFilterName (name : String) : Bool :=
  name == Filter.simpleName || name == Filter.complexName

/-- The pairs without those that carry a filter. -/
def otherPairs (pairs : List (String × String)) : List (String × String) :=
  pairs.filter fun p => !isFilterName p.1

/-- The request with a filter in its address instead of any other one. An empty filter only removes
    what is there. -/
def withFilter (r : Request) (f : Filter) : Request :=
  { r with url := r.url.withPairs (otherPairs r.url.pairs ++ f.parameter?.toList) }

/-- The header that tells the form of the body. -/
def contentType : String × String := ("content-type", "application/json")

/-- The name of a header as it is sent. -/
def headerName (name : String) : String :=
  String.ofList (name.toList.map Char.toLower)

/-- Sets a header. -/
def setHeader (r : Request) (name value : String) : Request :=
  { r with headers := Keyed.insert (headerName name) value r.headers }

/-- A header, unless the request has one of that name. -/
def defaultHeader (name value : String) (headers : Keyed String) : Keyed String :=
  if Keyed.has headers name then headers else Keyed.insert name value headers

/-- The header that proves a user, with the name and the password in Base64. -/
def authorization (user : String) (password : Option String) : String × String :=
  ("authorization", "Basic " ++
    String.ofList (Base64.encode (Text.octets (user ++ ":" ++ password.getD "").toList)))

/-- The headers that are sent: the request's own, and unless they tell it, the form of the body and
    the credentials of the address. -/
def sentHeaders (r : Request) : Keyed String :=
  let headers := defaultHeader contentType.1 contentType.2 r.headers
  match r.url.credentials? with
  | some (user, password) =>
    let (name, value) := authorization user password
    defaultHeader name value headers
  | none => headers

/-- The address that is sent. Credentials travel in a header instead. -/
def sentUrl (r : Request) : Url :=
  if r.url.credentials?.isSome then r.url.withoutCredentials else r.url

/-- The body that is sent. -/
def sentBody (r : Request) : String :=
  r.body.compact

end Request

end RowFilter
