import HttpContract.Text.Blank

/-!
# Names of headers

A header may be named by a constant, capitals and digits in parts joined by underscores; on the wire each part keeps only
its first capital and the joints are hyphens. Every other name is taken as it is.
-/

namespace HttpContract.HeaderName

/-- Whether a character may stand in a constant. -/
def isConstantChar (c : Char) : Bool := c.isUpper || c.isDigit

/-- Whether a name is a constant. -/
def isConstant (name : List Char) : Bool :=
  (name.head?.map Char.isUpper).getD false &&
    (name.splitOn '_').all fun part => !part.isEmpty && part.all isConstantChar

/-- A part with its first character as it is and the others small. -/
def capitalized : List Char → List Char
  | [] => []
  | c :: rest => c :: rest.map Char.toLower

/-- The name of a header on the wire. -/
def normalize (name : String) : String :=
  let cs := Text.trimWhile Text.isBlank name.toList
  String.ofList <| if isConstant cs then ['-'].intercalate ((cs.splitOn '_').map capitalized) else cs

example : normalize " X_REQUEST_ID2 " = "X-Request-Id2" := by decide +kernel
example : normalize "x_REQUEST" = "x_REQUEST" := by decide +kernel

end HttpContract.HeaderName
