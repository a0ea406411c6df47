import HttpContract.Acceptance.Accept
import HttpContract.Text.Identifier
import HttpContract.Text.LetterCase
import HttpContract.Text.Blank

/-!
# Endpoint descriptions

A description gives the facts of an endpoint and the fields of its request and response. It is read from a value: the
members of each record in their order, unknown members ignored, and all issues collected.
-/

namespace HttpContract

/-- The methods an endpoint can have. -/
inductive Method where
  | get
  | post
  | put
  | patch
  | delete
  | options
  | head
  deriving DecidableEq, Repr

/-- The method on the wire. -/
def Method.name : Method → String
  | .get => "GET"
  | .post => "POST"
  | .put => "PUT"
  | .patch => "PATCH"
  | .delete => "DELETE"
  | .options => "OPTIONS"
  | .head => "HEAD"

/-- All methods. -/
def Method.all : List Method := [.get, .post, .put, .patch, .delete, .options, .head]

/-- The method with a name. -/
def Method.ofName? (name : String) : Option Method := Method.all.find? (·.name == name)

/-- The facts of an endpoint. -/
structure Metadata where
  method : Method
  name : String
  description : String
  path : String
  rateLimited : Bool
  requiresAuthentication : Bool
  deriving DecidableEq, Repr

/-- One annotation of a field: a word, or a name with a value. -/
structure Attribute where
  name : String
  value : Option String
  deriving DecidableEq, Repr

namespace Attribute

/-- Whether the attribute is a word. -/
def isWord (a : Attribute) : Bool := a.value.isNone

/-- The attribute as it is written. -/
def text (a : Attribute) : String :=
  match a.value with
  | none => a.name
  | some value => a.name ++ " = " ++ value

end Attribute

/-- A field as a description declares it. Its type is a part of the description that is read later. -/
structure Declaration where
  name : String
  type : Value
  attributes : List Attribute
  deriving Repr

/-- An endpoint as a description gives it. -/
structure Description where
  metadata : Metadata
  request : List Declaration
  response : List Declaration
  deriving Repr

namespace Members

/-- The members of a record. -/
def ofValue (record : String) : Value → Checked (List (String × Value))
  | .object members => .ok members
  | v => Checked.refuse (.notRecord record) v

/-- A member that must be there. -/
def required {α : Type} (members : List (String × Value)) (name : String) (read : Value → Checked α) : Checked α :=
  Checked.under (.member name) <|
    match member? name members with
    | some v => read v
    | none => Checked.refuse .missing (.object members)

/-- A member that may be left out. -/
def optional {α : Type} (members : List (String × Value)) (name : String) (default : α) (read : Value → Checked α) :
    Checked α :=
  match member? name members with
  | some v => (read v).under (.member name)
  | none => .ok default

/-- A text. -/
def text (v : Value) : Checked String :=
  match FieldType.acceptText v with
  | .ok s => .ok s
  | .error cause => Checked.refuse cause v

/-- A truth value. -/
def truth (v : Value) : Checked Bool :=
  match FieldType.acceptBool v with
  | .ok b => .ok b
  | .error cause => Checked.refuse cause v

/-- Items from an index on. -/
def itemsFrom {α : Type} (read : Value → Checked α) (index : Nat) : List Value → Checked (List α)
  | [] => .ok []
  | v :: rest => Checked.both (· :: ·) ((read v).under (.item index)) (itemsFrom read (index + 1) rest)

/-- A list. -/
def items {α : Type} (read : Value → Checked α) : Value → Checked (List α)
  | .array vs => itemsFrom read 0 vs
  | v => Checked.refuse (.notList .given) v

end Members

/-- A method in any case, blanks around it. -/
def Method.ofValue : Value → Checked Method
  | .text s =>
    let name := Text.upper (Text.strip s)
    match ofName? name with
    | some m => .ok m
    | none => Checked.refuse .notMethod (.text name)
  | v => Checked.refuse .notMethod v

/-- The facts of an endpoint. -/
def Metadata.ofValue (v : Value) : Checked Metadata := do
  let members ← Members.ofValue "EndpointMetadata" v
  let head := Checked.both Metadata.mk (Members.required members "method" Method.ofValue)
    (Members.required members "name" Members.text)
  let head := Checked.both (· ·) head (Members.optional members "description" "" Members.text)
  let head := Checked.both (· ·) head (Members.required members "path" Members.text)
  let head := Checked.both (· ·) head (Members.optional members "rate_limited" false Members.truth)
  Checked.both (· ·) head (Members.optional members "requires_authentication" false Members.truth)

namespace Attribute

/-- The long form of an attribute: a text is a word, and one pair other than a name is a name with its value. -/
def longForm : Value → Value
  | .text s => .object [("name", .text s)]
  | .object [(name, v)] => if name == "name" then .object [(name, v)] else .object [("name", .text name), ("value", v)]
  | v => v

/-- The value of an attribute, null for a word. -/
def valueOfValue (v : Value) : Checked (Option String) :=
  if v.isNull then .ok none else (Members.text v).map some

/-- An attribute. -/
def ofValue (v : Value) : Checked Attribute := do
  let members ← Members.ofValue "AttributeDecl" (longForm v)
  Checked.both Attribute.mk (Members.required members "name" Members.text)
    (Members.optional members "value" none valueOfValue)

end Attribute

namespace Declaration

/-- The name of a field. -/
def nameOfValue (v : Value) : Checked String := do
  let name ← Members.text v
  if Text.isIdentifier name then .ok name else Checked.refuse (.notIdentifier name) v

/-- A declaration of a field. -/
def ofValue (v : Value) : Checked Declaration := do
  let members ← Members.ofValue "FieldDecl" v
  let head := Checked.both Declaration.mk (Members.required members "name" nameOfValue)
    (Members.optional members "type" (.text "str") .ok)
  Checked.both (· ·) head (Members.optional members "attrs" [] (Members.items Attribute.ofValue))

end Declaration

/-- A description. -/
def Description.ofValue (v : Value) : Checked Description := do
  let members ← Members.ofValue "EndpointDescription" v
  let head := Checked.both Description.mk (Members.required members "metadata" Metadata.ofValue)
    (Members.optional members "request" [] (Members.items Declaration.ofValue))
  Checked.both (· ·) head (Members.optional members "response" [] (Members.items Declaration.ofValue))

end HttpContract
