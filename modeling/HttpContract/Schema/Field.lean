import HttpContract.FieldType.Name

/-!
# Fields of a schema

A field has a place on the wire: the path, the query, a header of its own, a member of the body, or the whole body.
-/

namespace HttpContract

/-- Where a field travels. A newtype field is the whole body. -/
inductive Place where
  | body
  | newtypeBody
  | header (name : String)
  | path
  | query
  deriving DecidableEq, Repr

/-- Why a tag and a header name make no place. -/
inductive PlaceError where
  | unknownTag (tag : String)
  | headerName
  deriving DecidableEq, Repr

/-- The error in words. -/
def PlaceError.message : PlaceError → String
  | .unknownTag tag => Text.quoted tag ++ " is not a valid KindTag"
  | .headerName => "header_name is required for HEADER kind and only for it"

namespace Place

/-- The place of a tag: a header needs a name, and nothing else takes one. -/
def ofTag (tag : String) (headerName : Option String) : Except PlaceError Place :=
  let bare (place : Place) := if headerName.isSome then .error .headerName else .ok place
  if tag == "body" then bare body
  else if tag == "newtype_body" then bare newtypeBody
  else if tag == "path" then bare path
  else if tag == "query" then bare query
  else if tag == "header" then
    match headerName with
    | some name => .ok (header name)
    | none => .error .headerName
  else .error (.unknownTag tag)

/-- The place as reports show it. -/
def label : Place → String
  | body => "body"
  | newtypeBody => "newtype_body"
  | header name => "header(" ++ name ++ ")"
  | path => "path"
  | query => "query"

/-- Whether the field is a member of the body. -/
def isBody : Place → Bool
  | body => true
  | _ => false

/-- Whether the field is the whole body. -/
def isNewtypeBody : Place → Bool
  | newtypeBody => true
  | _ => false

/-- Whether the field is a header. -/
def isHeader : Place → Bool
  | header _ => true
  | _ => false

/-- Whether the field is a segment of the path. -/
def isPath : Place → Bool
  | path => true
  | _ => false

/-- Whether the field is a key of the query. -/
def isQuery : Place → Bool
  | query => true
  | _ => false

/-- Whether a field of a response may be there. -/
def suitsResponse (p : Place) : Bool := p.isBody || p.isNewtypeBody || p.isHeader

end Place

/-- A field with its type and place, and where its declaration stands. -/
structure Field where
  name : String
  type : DeclaredType
  place : Place
  location : String
  deriving Repr

/-- What messages call the field. -/
def Field.reference (f : Field) : String := if f.location.isEmpty then f.name else f.location

end HttpContract
