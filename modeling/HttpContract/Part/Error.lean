import HttpContract.Part.Record
import HttpContract.Acceptance.WireText
import HttpContract.Schema.Field

/-!
# Errors of the parts of messages

A part of a message (path, query, headers, body) can fail to be built from fields, to write values, and to read what comes
in.
-/

namespace HttpContract

/-- Why fields make up no part. -/
inductive PartError where
  | foreignType (value : Value)
  | noQueryFields
  | notAHeader (reference : String)
  | severalBodies
  | pathFields (fields placeholders : List String)
  | hiddenList (name : String)
  deriving Repr

/-- The error in words; a type that is none has no words. -/
def PartError.message : PartError → String
  | .foreignType _ => ""
  | .noQueryFields => "QueryCodec needs at least one query field"
  | .notAHeader reference => reference ++ " is not a header field"
  | .severalBodies => "newtype body field and body fields are mutually exclusive"
  | .pathFields fields placeholders =>
    "path fields " ++ Text.quotedList fields ++ " do not match placeholders " ++ Text.quotedList placeholders
  | .hiddenList name =>
    let bare := String.ofList (name.toList.dropWhile (· == '_'))
    "Fields must not use names with leading underscores; e.g., use " ++
      Text.quoted (if bare.isEmpty then "my_field" else bare) ++ " instead of " ++ Text.quoted name ++ "."

/-- Why values cannot be written. -/
inductive EncodeError where
  | notMembers (record : String) (input : Value)
  | invalid (record : String) (issues : List Issue)
  | hidden (slot : HiddenSlot)
  | unset
  | noValue (name : String)
  | badHeaderValue (header value : String)
  | noText (fault : FormFault)
  | noBody (fault : FormFault)
  | notItems (kind : String)
  deriving Repr

/-- The fault of wire text in words. -/
def FormFault.messageInText : FormFault → String
  | .malformed m => "'utf-8' codec can't decode " ++ m.stretch ++ ": invalid utf-8"
  | .tooDeep => "Maximum serialization depth exceeded"
  | .outOfRange => "int too large to convert to float"

/-- The fault of a body in words. -/
def FormFault.messageInBody (fault : FormFault) : String :=
  "Error serializing to JSON: " ++
    match fault with
    | .malformed m =>
      match m.fault with
      | .truncated => "incomplete utf-8 byte sequence from index " ++ toString m.start
      | _ => "invalid utf-8 sequence of " ++ toString m.length ++ " bytes from index " ++ toString m.start
    | .tooDeep => "ValueError: Maximum serialization depth exceeded"
    | .outOfRange => "int too large to convert to float"

/-- The error in words. -/
def EncodeError.message : EncodeError → String
  | .notMembers record input => "expected " ++ record ++ " or a mapping, got " ++ input.kindName
  | .invalid _ issues => Issue.summary issues
  | .hidden slot => slot.message
  | .unset => "Unable to serialize unknown type: <class 'ellipsis'>"
  | .noValue name => Text.quoted name
  | .badHeaderValue header value =>
    "value for header " ++ header ++ " is not a valid header value: " ++ Text.quoted value
  | .noText fault => fault.messageInText
  | .noBody fault => fault.messageInBody
  | .notItems kind => Text.quoted kind ++ " object is not iterable"

/-- Why a message cannot be read. -/
inductive DecodeError where
  | missingSegment (field : String)
  | badSegment (field segment detail : String)
  | badQuery (query detail : String)
  | missingHeader (header : String)
  | badHeader (header value detail : String)
  | badBody (detail : String)
  | status (code : Int)
  | hidden (slot : HiddenSlot)
  | invalid (record : String) (issues : List Issue)
  deriving Repr

/-- The error in words. -/
def DecodeError.message : DecodeError → String
  | .missingSegment field => "path segment for `" ++ field ++ "` is missing"
  | .badSegment field segment detail =>
    "cannot decode path segment " ++ Text.quoted segment ++ " into `" ++ field ++ "`: " ++ detail
  | .badQuery query detail => "cannot decode query string " ++ Text.quoted query ++ ": " ++ detail
  | .missingHeader header => "missing expected header: " ++ header
  | .badHeader header value detail =>
    "invalid value for header " ++ header ++ ": " ++ Text.quoted value ++ ": " ++ detail
  | .badBody detail => "cannot deserialize body: " ++ detail
  | .status code => "http status " ++ toString code
  | .hidden slot => slot.message
  | .invalid _ issues => Issue.summary issues

/-- The field as a slot, if its type is one. -/
def Field.slot (f : Field) : Except PartError Slot :=
  match f.type with
  | .known type => .ok ⟨f.name, type⟩
  | .foreign v => .error (.foreignType v)

/-- The field as a slot of a record. A hidden slot takes no members, so that it needs no type; without one it is taken
for a slot of a type without null. -/
def Field.recordSlot (f : Field) : Except PartError Slot :=
  let hidden : Slot := ⟨f.name, .str⟩
  match f.slot with
  | .ok s => .ok s
  | .error e => if hidden.isHidden then .ok hidden else .error e

/-- The value under a name, null if there is none. -/
def valueOrNull (name : String) (values : List (String × Value)) : Value := (member? name values).getD .null

/-- The wire text of a value. -/
def wireText (t : FieldType) (v : Value) : Except EncodeError String := (WireText.render t v).mapError .noText

/-- The bytes of a JSON form. -/
def bodyBytes (form : Value) : List UInt8 := Text.utf8 (Json.write Json.bodyStyle form)

end HttpContract
