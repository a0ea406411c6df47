import HttpContract.Number.Binary64

/-!
# Values

The values that fields hold and descriptions are made of. They are those of JSON, with whole numbers apart from the
others, and byte strings, which only a caller can give. The members of an object are in the order in which their names
first came, and no name comes twice in an object built by `insertMember`.
-/

namespace HttpContract

/-- A value of a field, or a part of a description. -/
inductive Value where
  | null
  | bool (b : Bool)
  | int (n : Int)
  | float (x : Binary64)
  | text (s : String)
  | bytes (data : List UInt8)
  | array (items : List Value)
  | object (members : List (String × Value))
  deriving Repr, Inhabited

/-- The value under a name in a list of pairs. -/
def member? {α : Type} (name : String) (members : List (String × α)) : Option α :=
  (members.find? (·.1 == name)).map (·.2)

/-- The members with one more: a name that is there keeps its place and takes the new value. -/
def insertMember {α : Type} (members : List (String × α)) (name : String) (value : α) : List (String × α) :=
  if members.any (·.1 == name) then members.map fun m => if m.1 == name then (name, value) else m
  else members ++ [(name, value)]

/-- Pairs in order as members: of several pairs with one name the last value counts, at the place of the first. -/
def membersOf {α : Type} (pairs : List (String × α)) : List (String × α) :=
  pairs.foldl (fun members pair => insertMember members pair.1 pair.2) []

namespace Value

/-- What messages call the kind of a value. -/
def kindName : Value → String
  | null => "NoneType"
  | bool _ => "bool"
  | int _ => "int"
  | float _ => "float"
  | text _ => "str"
  | bytes _ => "bytes"
  | array _ => "list"
  | object _ => "dict"

/-- Whether the value is null. -/
def isNull : Value → Bool
  | null => true
  | _ => false

end Value

end HttpContract
