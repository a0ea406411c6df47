import HttpContract.Path.Template
import HttpContract.Schema.Classify

/-!
# Contracts

A contract is what a description comes to when it breaks no rule: the fields of the request, those of the response, and the
template of the path. No check stops another: the issues of the request and of the response are all found, and the report
lists them in a fixed order.
-/

namespace HttpContract

/-- The fields of one side of an endpoint in the order of their declarations. -/
structure Schema where
  side : String
  fields : List Field
  deriving Repr

namespace Schema

/-- The field with a name. -/
def field? (s : Schema) (name : String) : Option Field := s.fields.find? (·.name == name)

/-- The fields at places of a kind. -/
def fieldsAt (s : Schema) (at? : Place → Bool) : List Field := s.fields.filter (at? ·.place)

/-- The fields that are members of the body. -/
def bodyFields (s : Schema) : List Field := s.fieldsAt Place.isBody

/-- The fields that are headers. -/
def headerFields (s : Schema) : List Field := s.fieldsAt Place.isHeader

/-- The fields that are segments of the path. -/
def pathFields (s : Schema) : List Field := s.fieldsAt Place.isPath

/-- The fields that are keys of the query. -/
def queryFields (s : Schema) : List Field := s.fieldsAt Place.isQuery

/-- The field that is the whole body. -/
def newtypeField? (s : Schema) : Option Field := s.fields.find? (·.place.isNewtypeBody)

/-- The path field with a name. -/
def pathField? (s : Schema) (name : String) : Option Field := s.pathFields.find? (·.name == name)

/-- Whether the side has a body. -/
def hasBody (s : Schema) : Bool := !s.bodyFields.isEmpty || s.newtypeField?.isSome

end Schema

/-- The names that come more than once, in the order in which they first come, with their counts. -/
def repeated (names : List String) : List (String × Nat) :=
  (names.eraseDups.map fun name => (name, names.count name)).filter (1 < ·.2)

namespace Schema

/-- Issues with names that several declarations share. -/
def nameIssues (side : String) (declarations : List Declaration) : List SchemaIssue :=
  (repeated (declarations.map (·.name))).map fun (name, count) => ⟨.repeatedName name count, [side ++ "." ++ name]⟩

/-- Issues with single declarations. -/
def declarationIssues (side : String) (declarations : List Declaration) : List SchemaIssue :=
  declarations.flatMap fun d => (d.classify side).issues

/-- The fields of the declarations that have no issues. -/
def fieldsOf (side : String) (declarations : List Declaration) : List Field :=
  declarations.filterMap fun d => (d.classify side).field

/-- Issues with more than one body: a newtype field is the only one that makes up the body. -/
def bodyIssues (side : String) (fields : List Field) : List SchemaIssue :=
  let newtypes := fields.filter (·.place.isNewtypeBody)
  let bodies := fields.filter (·.place.isBody)
  (if 1 < newtypes.length then [⟨.severalNewtypeBodies side, newtypes.map Field.reference⟩] else []) ++
    if newtypes.isEmpty || bodies.isEmpty then []
    else [⟨.newtypeAndBodyFields side, (newtypes ++ bodies).map Field.reference⟩]

/-- Issues with a body on an endpoint whose method takes none. -/
def getIssues (method : Method) (fields : List Field) : List SchemaIssue :=
  if method == .get then
    (fields.filter (·.place.isBody) ++ fields.filter (·.place.isNewtypeBody)).map fun f => ⟨.bodyOnGet, [f.reference]⟩
  else []

/-- The template of a path; one that does not start with a slash is read as if it did. -/
def templateOf (path : String) : PathTemplate :=
  .ofRooted (if PathTemplate.isRooted path then path else "/" ++ path)

/-- Whether a path field can be null where the path needs a text. The type of any value passes. -/
def isOptionalInPath (type : DeclaredType) : Bool :=
  match type with
  | .known .any => false
  | type => type.allowsNull

/-- Issues between the path and the path fields. -/
def pathIssues (path : String) (fields : List Field) : List SchemaIssue :=
  let pathFields := fields.filter (·.place.isPath)
  let names := (templateOf path).placeholderNames
  (if PathTemplate.isRooted path then [] else [⟨.unrootedPath path, []⟩]) ++
    (pathFields.filter (isOptionalInPath ·.type)).map (fun f => ⟨.optionalPathField f.name, [f.reference]⟩) ++
    (repeated names).map (fun (name, count) => ⟨.repeatedPlaceholder name count path, []⟩) ++
    (if names.length == pathFields.length then []
      else [⟨.placeholderCount pathFields.length names.length, pathFields.map Field.reference⟩]) ++
    (names.eraseDups.filter fun name => !(pathFields.map (·.name)).contains name).map fun name =>
      ⟨.unboundPlaceholder name, ["request." ++ name]⟩

/-- Issues with fields that a response cannot have. -/
def responsePlaceIssues (fields : List Field) : List SchemaIssue :=
  (fields.filter (!·.place.suitsResponse)).map fun f => ⟨.responsePlace f.place, [f.reference]⟩

/-- All issues of the request. -/
def requestIssues (metadata : Metadata) (declarations : List Declaration) : List SchemaIssue :=
  let fields := fieldsOf "request" declarations
  nameIssues "request" declarations ++ declarationIssues "request" declarations ++ bodyIssues "request" fields ++
    getIssues metadata.method fields ++ pathIssues metadata.path fields

/-- All issues of the response. -/
def responseIssues (declarations : List Declaration) : List SchemaIssue :=
  let fields := fieldsOf "response" declarations
  nameIssues "response" declarations ++ declarationIssues "response" declarations ++ responsePlaceIssues fields ++
    bodyIssues "response" fields

end Schema

/-- The fields of both sides and the template of the path. -/
structure Contract where
  request : Schema
  response : Schema
  template : PathTemplate
  deriving Repr

namespace Contract

/-- All issues of a description. -/
def issues (metadata : Metadata) (request response : List Declaration) : List SchemaIssue :=
  Schema.requestIssues metadata request ++ Schema.responseIssues response

/-- The contract of a description, or all issues with it. -/
def check (metadata : Metadata) (request response : List Declaration) : Except SchemaReport Contract :=
  let report : SchemaReport := ⟨metadata.name, issues metadata request response⟩
  if report.issues.isEmpty then
    .ok ⟨⟨"request", Schema.fieldsOf "request" request⟩, ⟨"response", Schema.fieldsOf "response" response⟩,
      Schema.templateOf metadata.path⟩
  else .error report

end Contract

end HttpContract
