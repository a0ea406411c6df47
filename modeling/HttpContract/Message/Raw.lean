import HttpContract.Json.Value
import HttpContract.Text.LetterCase
import HttpContract.Text.Utf8

/-!
# Raw messages

Requests and responses as they travel. Headers are names with values in order; names differ only when they differ beyond
letter case, but a message that comes in may hold several spellings of one.
-/

namespace HttpContract

/-- Header names with their values in order. -/
abbrev Headers := List (String × String)

namespace Headers

/-- Whether two names name one header. -/
def sameName (a b : String) : Bool := Text.lower a == Text.lower b

/-- The value of a header: of the name as it is spelled if it is there, else of its first other spelling. -/
def lookup (headers : Headers) (name : String) : Option String :=
  match member? name headers with
  | some value => some value
  | none => (headers.find? fun h => sameName h.1 name).map (·.2)

/-- The headers with a value for a name, in place of all spellings of it. -/
def replace (headers : Headers) (name value : String) : Headers :=
  headers.filter (fun h => !sameName h.1 name) ++ [(name, value)]

/-- Whether two lists of headers hold the same names with the same values, in whatever order. -/
def sameAs (headers others : Headers) : Bool :=
  headers.length == others.length && headers.all fun h => member? h.1 others == some h.2

end Headers

/-- A request as it travels. -/
structure RawRequest where
  method : String
  path : String
  query : Option String
  headers : Headers
  body : List UInt8
  deriving DecidableEq, Repr

namespace RawRequest

/-- The value of a header. -/
def header (r : RawRequest) (name : String) : Option String := r.headers.lookup name

/-- Path and query as the first line of a request holds them. -/
def target (r : RawRequest) : String :=
  match r.query with
  | some query => r.path ++ "?" ++ query
  | none => r.path

/-- The request as a value; bytes of the body that are no UTF-8 are replaced. -/
def toValue (r : RawRequest) : Value :=
  .object [("method", .text r.method), ("path", .text r.path), ("query", (r.query.map .text).getD .null),
    ("headers", .object (r.headers.map fun (name, value) => (name, .text value))),
    ("body", .text (Text.decodeLossy r.body))]

/-- Whether two requests are the same but for the order of their headers. -/
def sameAs (r s : RawRequest) : Bool :=
  r.method == s.method && r.path == s.path && r.query == s.query && r.headers.sameAs s.headers && r.body == s.body

end RawRequest

/-- A response as it travels. -/
structure RawResponse where
  status : Int
  headers : Headers
  body : List UInt8
  deriving DecidableEq, Repr

namespace RawResponse

/-- The value of a header. -/
def header (r : RawResponse) (name : String) : Option String := r.headers.lookup name

/-- The response as a value; bytes of the body that are no UTF-8 are replaced. -/
def toValue (r : RawResponse) : Value :=
  .object [("status", .int r.status),
    ("headers", .object (r.headers.map fun (name, value) => (name, .text value))),
    ("body", .text (Text.decodeLossy r.body))]

/-- Whether two responses are the same but for the order of their headers. -/
def sameAs (r s : RawResponse) : Bool :=
  r.status == s.status && r.headers.sameAs s.headers && r.body == s.body

end RawResponse

end HttpContract
