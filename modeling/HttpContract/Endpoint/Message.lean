import HttpContract.Endpoint.Basic

/-!
# Messages of an endpoint

Values are first made those of the record of their side, then written part by part. A slot that stays unset is refused
where it would be written. Reading goes through the parts in the order path, query, headers, body and gathers the values in
the record; the status of a response is looked at first.
-/

namespace HttpContract.Endpoint

/-- The header that names the type of a body. -/
def contentTypeHeader : String := "Content-Type"

/-- The values of a record that an input stands for. -/
def valuesOf (r : Record) (input : Value) : Except EncodeError (List (String × Value)) :=
  match input with
  | .object members =>
    match r.acceptClosed members with
    | .ok values => .ok values
    | .error issues => .error (.invalid r.name issues)
  | v => .error (.notMembers r.name v)

/-- What is written of items, unless one of them stays unset. What is wrong with the items before that one comes first. -/
def untilUnset {α β : Type} (isUnset : α → Bool) (write : List α → Except EncodeError β) (items : List α) :
    Except EncodeError β :=
  if items.any isUnset then do
    let _ ← write (items.takeWhile (!isUnset ·))
    .error .unset
  else write items

/-- The path for values; without fields it is the template. -/
def writePath (e : Endpoint) (values : List (String × Value)) : Except EncodeError String :=
  if e.path.hasFields then
    untilUnset (·.slot?.any Slot.isUnset) (fun segments => PathPart.encode ⟨segments⟩ values) e.path.segments
  else .ok e.contract.template.raw

/-- The query for values, if there are query fields. -/
def writeQuery (e : Endpoint) (values : List (String × Value)) : Except EncodeError (Option String) :=
  match e.query with
  | none => .ok none
  | some query =>
    (untilUnset (·.slot.isUnset) (fun slots => { query with slots }.encode values) query.slots).map some

/-- Headers with values written. -/
def writeHeaders (part : HeaderPart) (values : List (String × Value)) (headers : Headers) :
    Except EncodeError Headers :=
  untilUnset (·.slot.isUnset) (fun slots => HeaderPart.encode ⟨slots⟩ values headers) part.slots

/-- A body for values. Members of a body that are hidden are left out of it. -/
def writeBody (part : BodyPart) (values : List (String × Value)) : Except EncodeError (List UInt8) :=
  match part with
  | .newtype s => if s.isUnset then .error .unset else part.encode values
  | part => part.encode values

/-- The request for values of its record. -/
def writeRequest (e : Endpoint) (values : List (String × Value)) : Except EncodeError RawRequest := do
  let values ← (e.requestRecord.read values).mapError .hidden
  let path ← e.writePath values
  let query ← e.writeQuery values
  let body ← writeBody e.requestBody values
  let start : Headers := if e.requestBody.isEmpty then [] else [(contentTypeHeader, e.config.settings.contentType)]
  let headers ← writeHeaders e.requestHeaders values start
  .ok ⟨e.metadata.method.name, path, query, headers, body⟩

/-- The request that an input stands for. -/
def encodeRequest (e : Endpoint) (input : Value) : Except EncodeError RawRequest := do
  e.writeRequest (← valuesOf e.requestRecord input)

/-- The response for values of its record; without a status it has the default one. -/
def writeResponse (e : Endpoint) (values : List (String × Value)) (status : Option Int) :
    Except EncodeError RawResponse := do
  let values ← (e.responseRecord.read values).mapError .hidden
  let headers ← writeHeaders e.responseHeaders values [(contentTypeHeader, e.config.settings.contentType)]
  let body ← writeBody e.responseBody values
  .ok ⟨status.getD e.config.settings.defaultStatus, headers, body⟩

/-- The response that an input stands for. -/
def encodeResponse (e : Endpoint) (input : Value) (status : Option Int) : Except EncodeError RawResponse := do
  e.writeResponse (← valuesOf e.responseRecord input) status

/-- The values of a record gathered from parts. -/
def gather (r : Record) (found : List (String × Value)) : Except DecodeError (List (String × Value)) :=
  (r.acceptClosed (membersOf found)).mapError (.invalid r.name)

/-- The values in a path; without fields there are none. -/
def readPath (e : Endpoint) (path : String) : Except DecodeError (List (String × Value)) :=
  if e.path.hasFields then e.path.decode path else .ok []

/-- The values in a query; without query fields there are none. -/
def readQuery (e : Endpoint) (query : Option String) : Except DecodeError (List (String × Value)) :=
  match e.query with
  | none => .ok []
  | some part => part.decode query

/-- The values in a request. -/
def decodeRequest (e : Endpoint) (raw : RawRequest) : Except DecodeError (List (String × Value)) := do
  let path ← e.readPath raw.path
  let query ← e.readQuery raw.query
  let headers ← e.requestHeaders.decode raw.headers
  let body ← e.requestBody.decode raw.body
  gather e.requestRecord (path ++ query ++ headers ++ body)

/-- The values in a response with a success status. -/
def decodeResponse (e : Endpoint) (raw : RawResponse) : Except DecodeError (List (String × Value)) :=
  if e.config.isSuccess raw.status then do
    let headers ← e.responseHeaders.decode raw.headers
    let body ← e.responseBody.decode raw.body
    gather e.responseRecord (headers ++ body)
  else .error (.status raw.status)

end HttpContract.Endpoint
