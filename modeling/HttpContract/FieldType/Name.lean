import HttpContract.FieldType.Basic
import HttpContract.Json.Shown
import HttpContract.Text.Blank

/-!
# Names of types

A type name is a scalar name in any case, `list[` and a name and `]`, or a name and `?`, with blanks around any of them.
The name of an item type holds no line feed. Descriptions may also give null, which is the type of null, or a value that
is no name at all; a field of such a foreign type is well-formed but cannot be used.
-/

namespace HttpContract

/-- Why a text is no type name. -/
inductive TypeNameError where
  | empty
  | unknown (name : String)
  deriving DecidableEq, Repr

/-- The error in words. -/
def TypeNameError.message : TypeNameError → String
  | .empty => "empty type name"
  | .unknown name => "unknown type name " ++ Text.quoted name

namespace FieldType

/-- The names of the types without parts. -/
def scalarNames : List (String × FieldType) :=
  [("str", str), ("string", str), ("int", int), ("integer", int), ("float", float), ("number", float),
    ("bool", bool), ("boolean", bool), ("object", object), ("any", any)]

/-- The type of a scalar name in any case. -/
def ofScalarName? (name : List Char) : Option FieldType :=
  (scalarNames.find? fun entry => entry.1.toList == name.map Char.toLower).map (·.2)

/-- The name of the item type if the name is that of a list. -/
def itemName? (name : List Char) : Option (List Char) :=
  match name with
  | 'l' :: 'i' :: 's' :: 't' :: '[' :: rest =>
    if rest.getLast? == some ']' && 1 < rest.length && !rest.dropLast.contains '\n' then some rest.dropLast else none
  | _ => none

/-- The type that a name of at most so many characters denotes. -/
def ofNameWithin : Nat → List Char → Except TypeNameError FieldType
  | 0, _ => .error .empty
  | length + 1, descriptor =>
    let name := Text.trimWhile Text.isBlank descriptor
    if name.isEmpty then .error .empty
    else if name.getLast? == some '?' then (ofNameWithin length name.dropLast).map orNull
    else
      match itemName? name with
      | some item => (ofNameWithin length item).map list
      | none =>
        match ofScalarName? name with
        | some t => .ok t
        | none => .error (.unknown (String.ofList descriptor))

/-- The type that a name denotes. -/
def ofName (name : String) : Except TypeNameError FieldType := ofNameWithin name.toList.length name.toList

end FieldType

/-- What a description gives as the type of a field: a type, or a value that names none. -/
inductive DeclaredType where
  | known (type : FieldType)
  | foreign (value : Value)
  deriving Repr

namespace DeclaredType

/-- The type that a part of a description stands for. -/
def ofValue : Value → Except TypeNameError DeclaredType
  | .text name => (FieldType.ofName name).map known
  | .null => .ok (known .null)
  | v => .ok (foreign v)

/-- The type as reports show it. -/
def label : DeclaredType → String
  | known t => t.label
  | foreign v => v.shown

/-- Whether null is a value of the type. -/
def allowsNull : DeclaredType → Bool
  | known t => t.allowsNull
  | foreign _ => false

/-- Whether the type is a list, optional or not. -/
def isSequence : DeclaredType → Bool
  | known t => t.isSequence
  | foreign _ => false

end DeclaredType

example : FieldType.ofName " list[ Int? ] ??" = .ok (.optional (.list (.optional .int))) := by rfl
example : FieldType.ofName "list[]" = .error (.unknown "list[]") := by rfl
example : FieldType.ofName "? ?" = .error .empty := by rfl

end HttpContract
