import HttpContract.Description.Endpoint
import HttpContract.Json.Document

/-!
# Description files

A file holds one description, a list of them, or an object with such a list as its member `endpoints`. A file that is no
JSON or holds something else is refused with its source.
-/

namespace HttpContract

/-- What makes a description file unusable. -/
inductive FileFault where
  | unreadable (reason : String)
  | badJson (fault : Document.Located)
  | badEndpoint (index : Option Nat) (issues : List Issue)
  deriving Repr

/-- The fault in words. A description among several is shown by its index. -/
def FileFault.message : FileFault → String
  | .unreadable reason => "cannot read file: " ++ reason
  | .badJson fault => "invalid JSON: " ++ fault.message
  | .badEndpoint none issues => "endpoint: " ++ Issue.summary issues
  | .badEndpoint (some index) issues => "endpoint #" ++ toString index ++ ": " ++ Issue.summary issues

/-- A description file that cannot be used, with its source if that is known. -/
structure DescriptionError where
  fault : FileFault
  source : Option String
  deriving Repr

/-- The error in words. -/
def DescriptionError.message (e : DescriptionError) : String :=
  match e.source with
  | none => e.fault.message
  | some source => if source.isEmpty then e.fault.message else source ++ ": " ++ e.fault.message

/-- Why no descriptions could be taken from a file: the file is unusable, or it lies outside what can be read at all. -/
inductive LoadError where
  | unusable (e : DescriptionError)
  | beyondLimit (fault : Document.Fault)
  | notUtf8 (data : List UInt8) (malformed : Text.Utf8.Malformed)
  deriving Repr

/-- Bytes that are no UTF-8, in words. -/
def Text.Utf8.Malformed.message (m : Text.Utf8.Malformed) : String :=
  "'utf-8' codec can't decode " ++ m.stretch ++ ": " ++ m.fault.message

/-- The error in words. -/
def LoadError.message : LoadError → String
  | .unusable e => e.message
  | .beyondLimit fault => fault.message
  | .notUtf8 _ m => m.message

namespace Description

/-- The parts of a value that should be descriptions. -/
def parts (v : Value) : List Value :=
  let v := match v with
    | .object members => (member? "endpoints" members).getD v
    | v => v
  match v with
  | .array items => items
  | v => [v]

/-- The descriptions in a list of parts, from an index on; the first part that is none is refused. -/
def listFrom (several : Bool) (source : Option String) (index : Nat) :
    List Value → Except DescriptionError (List Description)
  | [] => .ok []
  | v :: rest =>
    match ofValue v with
    | .error issues => .error ⟨.badEndpoint (if several then some index else none) issues, source⟩
    | .ok d => (listFrom several source (index + 1) rest).map (d :: ·)

/-- The descriptions in a value. -/
def listOfValue (v : Value) (source : Option String) : Except DescriptionError (List Description) :=
  listFrom (1 < (parts v).length) source 0 (parts v)

/-- The descriptions in a text. -/
def listOfText (s : String) (source : Option String) : Except LoadError (List Description) :=
  match Document.read s with
  | .error e => .error (if e.fault.isLimit then .beyondLimit e.fault else .unusable ⟨.badJson e, source⟩)
  | .ok v => (listOfValue v source).mapError .unusable

/-- The characters with one line feed for each line end of another form. -/
def lineFeeds : List Char → List Char
  | '\r' :: '\n' :: rest => '\n' :: lineFeeds rest
  | '\r' :: rest => '\n' :: lineFeeds rest
  | c :: rest => c :: lineFeeds rest
  | [] => []

/-- The descriptions in the bytes of a file. -/
def listOfBytes (data : List UInt8) (source : Option String) : Except LoadError (List Description) :=
  match Text.decodeStrict data with
  | .error m => .error (.notUtf8 data m)
  | .ok s => listOfText (String.ofList (lineFeeds s.toList)) source

end Description

end HttpContract
