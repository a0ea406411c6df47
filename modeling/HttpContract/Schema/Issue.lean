import HttpContract.Schema.Field
import HttpContract.Description.Endpoint

/-!
# What is wrong with a schema

Descriptions are checked as a whole: every violation is an issue with the places of the declarations it concerns, and the
issues of an endpoint are reported together.
-/

namespace HttpContract

/-- A rule that a description breaks. -/
inductive Violation where
  | severalAttributes (attributes : List Attribute)
  | unknownWord (name : String)
  | unknownPair (name : String)
  | noHeaderName
  | unknownType (error : TypeNameError)
  | repeatedName (name : String) (count : Nat)
  | severalNewtypeBodies (side : String)
  | newtypeAndBodyFields (side : String)
  | bodyOnGet
  | unrootedPath (path : String)
  | optionalPathField (name : String)
  | repeatedPlaceholder (name : String) (count : Nat) (path : String)
  | placeholderCount (fields placeholders : Nat)
  | unboundPlaceholder (name : String)
  | responsePlace (place : Place)
  deriving DecidableEq, Repr

namespace Violation

/-- The code of the rule. -/
def code : Violation → String
  | severalAttributes _ => "duplicate-kind-attribute"
  | unknownWord _ | unknownPair _ | noHeaderName => "unknown-attribute-key"
  | unknownType _ => "unknown-type-name"
  | repeatedName .. => "duplicate-field-name"
  | severalNewtypeBodies _ => "multiple-newtype-body-fields"
  | newtypeAndBodyFields _ => "newtype-and-body-fields"
  | bodyOnGet => "body-fields-on-get"
  | unrootedPath _ => "invalid-path-template"
  | optionalPathField _ => "optional-path-field"
  | repeatedPlaceholder .. => "duplicate-placeholder"
  | placeholderCount .. => "placeholder-count-mismatch"
  | unboundPlaceholder _ => "unknown-placeholder-field"
  | responsePlace _ => "invalid-response-field-kind"

/-- The violation in words. -/
def message : Violation → String
  | severalAttributes attributes =>
    "only one field-kind attribute per field, found " ++
      String.intercalate ", " (attributes.map fun a => "`" ++ a.text ++ "`")
  | unknownWord name => "invalid attribute `" ++ name ++ "`, expected one of `body`, `path`, `query`"
  | unknownPair name => "invalid attribute `" ++ name ++ "` with value, expected `header`"
  | noHeaderName => "`header` attribute needs a header name"
  | unknownType error => error.message
  | repeatedName name count => "field `" ++ name ++ "` declared " ++ toString count ++ " times"
  | severalNewtypeBodies side => "there can only be one newtype body field in the " ++ side
  | newtypeAndBodyFields side => "can't have both a newtype body field and regular body fields in the " ++ side
  | bodyOnGet => "GET endpoints can't have body fields"
  | unrootedPath path => "path needs to start with '/': " ++ Text.quoted path
  | optionalPathField name => "path field `" ++ name ++ "` can't be optional"
  | repeatedPlaceholder name count path =>
    "placeholder `:" ++ name ++ "` appears " ++ toString count ++ " times in " ++ Text.quoted path
  | placeholderCount fields placeholders =>
    "number of declared path parameters (" ++ toString fields ++ ") needs to match amount of placeholders in path (" ++
      toString placeholders ++ ")"
  | unboundPlaceholder name => "placeholder `:" ++ name ++ "` has no path field with that name"
  | responsePlace place => "response fields can't use the `" ++ place.label ++ "` kind, expected body or header"

/-- Whether a type name is the matter. -/
def isUnknownType : Violation → Bool
  | unknownType _ => true
  | _ => false

end Violation

/-- A violation and the declarations it concerns. -/
structure SchemaIssue where
  violation : Violation
  locations : List String
  deriving DecidableEq, Repr

namespace SchemaIssue

/-- The code of the issue. -/
def code (i : SchemaIssue) : String := i.violation.code

/-- The issue in words, without its places. -/
def message (i : SchemaIssue) : String := i.violation.message

/-- The issue in words. -/
def text (i : SchemaIssue) : String :=
  if i.locations.isEmpty then i.message else i.message ++ " (" ++ String.intercalate ", " i.locations ++ ")"

end SchemaIssue

/-- The issues of one endpoint. -/
structure SchemaReport where
  endpoint : String
  issues : List SchemaIssue
  deriving DecidableEq, Repr

namespace SchemaReport

/-- The report in words, an issue a line. -/
def message (r : SchemaReport) : String :=
  let head := if r.endpoint.isEmpty then "endpoint" else "endpoint `" ++ r.endpoint ++ "`"
  let lines := r.issues.map fun i => "  - [" ++ i.code ++ "] " ++ i.text
  String.intercalate "\n" ((head ++ ": " ++ toString r.issues.length ++ " schema error(s)") :: lines)

/-- The report with issues behind those that it holds. -/
def extend (r : SchemaReport) (issues : List SchemaIssue) : SchemaReport := { r with issues := r.issues ++ issues }

/-- The report as an error, if it holds an issue. -/
def verdict (r : SchemaReport) : Except SchemaReport Unit := if r.issues.isEmpty then .ok () else .error r

end SchemaReport

end HttpContract
