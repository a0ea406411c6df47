/-!
# Types of fields

The types that a field can have. A type is written as a name in descriptions (`HttpContract.FieldType.Name`) and as a
label in reports. An optional type is never directly within another one when it is built by `orNull`.
-/

namespace HttpContract

/-- The type of a field. -/
inductive FieldType where
  | str
  | int
  | float
  | bool
  | object
  | any
  | null
  | list (item : FieldType)
  | optional (inner : FieldType)
  deriving DecidableEq, Repr

namespace FieldType

/-- The type that takes null besides: twice optional is optional. -/
def orNull : FieldType → FieldType
  | optional t => optional t
  | t => optional t

/-- Whether null is a value of the type. -/
def allowsNull : FieldType → Bool
  | any | null | optional _ => true
  | _ => false

/-- Whether the type is a list, optional or not; a query repeats the key for such a field. -/
def isSequence : FieldType → Bool
  | list _ => true
  | optional t => isSequence t
  | _ => false

/-- The type of the items of a list, optional or not. -/
def itemType? : FieldType → Option FieldType
  | list t => some t
  | optional t => itemType? t
  | _ => none

/-- The type as reports show it. -/
def label : FieldType → String
  | str => "str"
  | int => "int"
  | float => "float"
  | bool => "bool"
  | object => "dict[str, Any]"
  | any => "Any"
  | null => "None"
  | list t => "List[" ++ t.label ++ "]"
  | optional t => "Optional[" ++ t.label ++ "]"

@[simp] theorem allowsNull_orNull (t : FieldType) : t.orNull.allowsNull = true := by
  cases t <;> rfl

@[simp] theorem orNull_orNull (t : FieldType) : t.orNull.orNull = t.orNull := by
  cases t <;> rfl

@[simp] theorem isSequence_orNull (t : FieldType) : t.orNull.isSequence = t.isSequence := by
  cases t <;> rfl

/-- The lists are the types that have items. -/
theorem isSome_itemType? (t : FieldType) : t.itemType?.isSome = t.isSequence := by
  induction t with
  | optional t ih => exact ih
  | _ => rfl

end FieldType

end HttpContract
