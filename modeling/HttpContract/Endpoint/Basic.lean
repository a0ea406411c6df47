import HttpContract.Config
import HttpContract.Part.Body
import HttpContract.Part.Header
import HttpContract.Part.Path
import HttpContract.Part.Query
import HttpContract.Schema.Contract

/-!
# Endpoints

An endpoint is a contract made ready for use: a record of all fields and the parts of the message for each side. It is
built from a description that breaks no rule; the parts then fit the fields by construction.
-/

namespace HttpContract

/-- An endpoint ready to write and read messages. -/
structure Endpoint where
  metadata : Metadata
  contract : Contract
  config : Config
  requestRecord : Record
  responseRecord : Record
  path : PathPart
  query : Option QueryPart
  requestHeaders : HeaderPart
  requestBody : BodyPart
  responseHeaders : HeaderPart
  responseBody : BodyPart

/-- Why a description makes up no endpoint. -/
inductive CompileError where
  | schema (report : SchemaReport)
  | part (e : PartError)
  deriving Repr

namespace Endpoint

/-- The words of a name: its longest stretches of ASCII letters and digits. -/
def nameWords (name : List Char) : List (List Char) :=
  (name.splitOnP fun c => !c.isAlphanum).filter (!·.isEmpty)

/-- The words of a name with their first letters capital, run together. -/
def typeName (name : String) : String :=
  let words := (nameWords name.toList).map fun word =>
    match word with
    | c :: rest => c.toUpper :: rest
    | [] => []
  if words.isEmpty then "Endpoint" else String.ofList words.flatten

/-- The record of all fields of a side. -/
def recordOf (name : String) (schema : Schema) : Except PartError Record :=
  (schema.fields.mapM Field.recordSlot).map fun slots => ⟨name, slots⟩

/-- The query of a side, if it has query fields. -/
def queryOf (name : String) (schema : Schema) : Except PartError (Option QueryPart) :=
  if schema.queryFields.isEmpty then .ok none else (QueryPart.ofFields name schema.queryFields).map some

/-- The body of a side. -/
def bodyOf (name : String) (schema : Schema) : Except PartError BodyPart :=
  BodyPart.ofFields name schema.bodyFields schema.newtypeField?

/-- The endpoint of a contract. -/
def build (metadata : Metadata) (contract : Contract) (config : Config) : Except PartError Endpoint := do
  let name := typeName metadata.name
  let requestRecord ← recordOf (name ++ "Request") contract.request
  let responseRecord ← recordOf (name ++ "Response") contract.response
  let path ← PathPart.ofFields contract.template contract.request.pathFields
  let query ← queryOf (name ++ "RequestQuery") contract.request
  let requestHeaders ← HeaderPart.ofFields contract.request.headerFields
  let requestBody ← bodyOf (name ++ "RequestBody") contract.request
  let responseHeaders ← HeaderPart.ofFields contract.response.headerFields
  let responseBody ← bodyOf (name ++ "ResponseBody") contract.response
  .ok ⟨metadata, contract, config, requestRecord, responseRecord, path, query, requestHeaders, requestBody,
    responseHeaders, responseBody⟩

/-- The endpoint of a description. -/
def compile (d : Description) (config : Config) : Except CompileError Endpoint :=
  match Contract.check d.metadata d.request d.response with
  | .error report => .error (.schema report)
  | .ok contract => (build d.metadata contract config).mapError .part

/-- The endpoint in short. -/
def text (e : Endpoint) : String :=
  "<Endpoint " ++ e.metadata.name ++ ": " ++ e.metadata.method.name ++ " " ++ e.metadata.path ++ ">"

/-- What the record of requests is for. -/
def requestNote (e : Endpoint) : String :=
  Text.stripEnd ("Data for a request to the `" ++ e.metadata.name ++ "` API endpoint.\n\n" ++ e.metadata.description)

/-- What the record of responses is for. -/
def responseNote (e : Endpoint) : String :=
  "Data in the response from the `" ++ e.metadata.name ++ "` API endpoint."

/-- A field in the description of an endpoint. -/
def describeField (f : Field) : Value :=
  .object [("name", .text f.name), ("type", .text f.type.label), ("kind", .text f.place.label)]

/-- A side in the description of an endpoint. -/
def describeSide (body : BodyPart) (schema : Schema) : Value :=
  .object [("body_mode", .text body.mode), ("fields", .array (schema.fields.map describeField))]

/-- All there is to know about an endpoint, as a value. -/
def describe (e : Endpoint) : Value :=
  .object [("name", .text e.metadata.name), ("method", .text e.metadata.method.name), ("path", .text e.metadata.path),
    ("description", .text e.metadata.description), ("rate_limited", .bool e.metadata.rateLimited),
    ("requires_authentication", .bool e.metadata.requiresAuthentication),
    ("placeholders", .array (e.contract.template.placeholderNames.map .text)),
    ("request", describeSide e.requestBody e.contract.request),
    ("response", describeSide e.responseBody e.contract.response)]

end Endpoint

end HttpContract
