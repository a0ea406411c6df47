import HttpContract.Json.Payload
import HttpContract.Text.Quoted

/-!
# What is wrong with a value

A value that does not have its type is refused with issues: each says where in the value it lies, what is wrong there, and
what the input was.
-/

namespace HttpContract

/-- Where a value comes from: handed over by the caller or by wire text, or read from a JSON body. -/
inductive Source where
  | given
  | json
  deriving DecidableEq, Repr

/-- A step from a value to a part of it. -/
inductive Step where
  | member (name : String)
  | item (index : Nat)
  deriving DecidableEq, Repr

/-- The step in words. -/
def Step.text : Step → String
  | .member name => name
  | .item index => toString index

/-- What is wrong with a value. -/
inductive Cause where
  | missing
  | unexpected
  | notText
  | textNotUtf8
  | notWhole
  | badWhole
  | wholeTooLong
  | fractional
  | notFinite
  | notNumber
  | badNumber
  | notBool
  | badBool
  | notList (source : Source)
  | notObject (source : Source)
  | notNull (source : Source)
  | notBody
  | notRecord (name : String)
  | notMethod
  | notIdentifier (name : String)
  | badPayload (fault : Payload.Located)
  deriving DecidableEq, Repr

namespace Cause

/-- The code of the cause. -/
def code : Cause → String
  | missing => "missing"
  | unexpected => "extra_forbidden"
  | notText => "string_type"
  | textNotUtf8 => "string_unicode"
  | notWhole => "int_type"
  | badWhole => "int_parsing"
  | wholeTooLong => "int_parsing_size"
  | fractional => "int_from_float"
  | notFinite => "finite_number"
  | notNumber => "float_type"
  | badNumber => "float_parsing"
  | notBool => "bool_type"
  | badBool => "bool_parsing"
  | notList _ => "list_type"
  | notObject _ => "dict_type"
  | notNull _ => "none_required"
  | notBody | notRecord _ => "model_type"
  | notMethod => "literal_error"
  | notIdentifier _ => "value_error"
  | badPayload _ => "json_invalid"

/-- The cause in words. -/
def message : Cause → String
  | missing => "Field required"
  | unexpected => "Extra inputs are not permitted"
  | notText => "Input should be a valid string"
  | textNotUtf8 => "Input should be a valid string, unable to parse raw data as a unicode string"
  | notWhole => "Input should be a valid integer"
  | badWhole => "Input should be a valid integer, unable to parse string as an integer"
  | wholeTooLong => "Unable to parse input string as an integer, exceeded maximum size"
  | fractional => "Input should be a valid integer, got a number with a fractional part"
  | notFinite => "Input should be a finite number"
  | notNumber => "Input should be a valid number"
  | badNumber => "Input should be a valid number, unable to parse string as a number"
  | notBool => "Input should be a valid boolean"
  | badBool => "Input should be a valid boolean, unable to interpret input"
  | notList .given => "Input should be a valid list"
  | notList .json => "Input should be a valid array"
  | notObject .given => "Input should be a valid dictionary"
  | notObject .json => "Input should be an object"
  | notNull .given => "Input should be None"
  | notNull .json => "Input should be null"
  | notBody => "Input should be an object"
  | notRecord name => "Input should be a valid dictionary or instance of " ++ name
  | notMethod => "Input should be 'GET', 'POST', 'PUT', 'PATCH', 'DELETE', 'OPTIONS' or 'HEAD'"
  | notIdentifier name => "Value error, field name must be an identifier, got " ++ Text.quoted name
  | badPayload fault => "Invalid JSON: " ++ fault.message

end Cause

/-- Something wrong with a part of a value: the way to the part, the cause, and the part as it came. -/
structure Issue where
  path : List Step
  cause : Cause
  input : Value
  deriving Repr

namespace Issue

/-- The way to the part in words. -/
def location (i : Issue) : String := String.intercalate "." (i.path.map Step.text)

/-- The issue seen from a value that holds this one a step away. -/
def under (step : Step) (i : Issue) : Issue := { i with path := step :: i.path }

/-- The first issue in words, and how many more there are. -/
def summary : List Issue → String
  | [] => ""
  | i :: rest =>
    let more := if rest.isEmpty then "" else " (+" ++ toString rest.length ++ " more)"
    (if i.location.isEmpty then "" else i.location ++ ": ") ++ i.cause.message ++ more

end Issue

/-- A value, or the issues with its input. -/
abbrev Checked (α : Type) := Except (List Issue) α

namespace Checked

/-- Refusal of an input for one cause. -/
def refuse {α : Type} (cause : Cause) (input : Value) : Checked α := .error [⟨[], cause, input⟩]

/-- A result seen from a value that holds this one a step away. -/
def under {α : Type} (step : Step) (x : Checked α) : Checked α := x.mapError (·.map (Issue.under step))

/-- Both results, or the issues of both. -/
def both {α β γ : Type} (f : α → β → γ) : Checked α → Checked β → Checked γ
  | .ok a, .ok b => .ok (f a b)
  | .ok _, .error e => .error e
  | .error e, .ok _ => .error e
  | .error e, .error e' => .error (e ++ e')

end Checked

end HttpContract
