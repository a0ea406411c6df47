import HttpContract.Schema.HeaderName
import HttpContract.Schema.Issue

/-!
# Declarations as fields

The attribute of a declaration gives the place of the field: none a member of the body, the words `body`, `path` and
`query` the whole body, the path and the query, and `header` with a value that header. Place and type are judged apart, so
that a declaration can have an issue with each; it becomes a field when it has none. A declaration is judged by itself
(`classify`) or into a report that it shares with others (`collect`).
-/

namespace HttpContract

/-- The outcome of a declaration: the issues with it, and the field if there are none. -/
structure Classified where
  issues : List SchemaIssue
  field : Option Field
  deriving Repr

namespace Declaration

/-- Where a declaration stands. -/
def location (side : String) (d : Declaration) : String := side ++ "." ++ d.name

/-- The place that a word stands for. -/
def wordPlace? (word : String) : Option Place :=
  if word == "body" then some .newtypeBody
  else if word == "path" then some .path
  else if word == "query" then some .query
  else none

/-- The place that one attribute gives. -/
def attributePlace (a : Attribute) : Except Violation Place :=
  match a.value with
  | none =>
    match wordPlace? a.name with
    | some place => .ok place
    | none => .error (.unknownWord a.name)
  | some value =>
    if a.name != "header" then .error (.unknownPair a.name)
    else if (HeaderName.normalize value).isEmpty then .error .noHeaderName
    else .ok (.header (HeaderName.normalize value))

/-- The place that the attributes give. -/
def place (d : Declaration) : Except Violation Place :=
  match d.attributes with
  | [] => .ok .body
  | [a] => attributePlace a
  | several => .error (.severalAttributes several)

/-- The type that the declaration gives. -/
def declaredType (d : Declaration) : Except Violation DeclaredType :=
  (DeclaredType.ofValue d.type).mapError .unknownType

/-- The declaration as a field of a side. -/
def classify (side : String) (d : Declaration) : Classified :=
  let issue (v : Violation) : SchemaIssue := ⟨v, [d.location side]⟩
  match d.place, d.declaredType with
  | .ok place, .ok type => ⟨[], some ⟨d.name, type, place, d.location side⟩⟩
  | .error v, .ok _ => ⟨[issue v], none⟩
  | .ok _, .error v => ⟨[issue v], none⟩
  | .error v, .error w => ⟨[issue v, issue w], none⟩

/-! ## Declarations judged into a report -/

/-- Reports a violation at a declaration. -/
def report (side : String) (d : Declaration) (v : Violation) : StateM SchemaReport Unit :=
  modify (·.extend [⟨v, [d.location side]⟩])

/-- The place that one attribute of a declaration gives, or what is wrong with it reported. -/
def collectAttribute (side : String) (d : Declaration) (a : Attribute) : StateM SchemaReport (Option Place) :=
  match a.value with
  | none =>
    match wordPlace? a.name with
    | some place => pure (some place)
    | none => do
      d.report side (.unknownWord a.name)
      pure none
  | some value =>
    if a.name != "header" then do
      d.report side (.unknownPair a.name)
      pure none
    else if (HeaderName.normalize value).isEmpty then do
      d.report side .noHeaderName
      pure none
    else pure (some (.header (HeaderName.normalize value)))

/-- The place that the attributes of a declaration give, or what is wrong with them reported. -/
def collectPlace (side : String) (d : Declaration) : StateM SchemaReport (Option Place) :=
  match d.attributes with
  | [] => pure (some .body)
  | [a] => d.collectAttribute side a
  | several => do
    d.report side (.severalAttributes several)
    pure none

/-- The field that a declaration becomes, or what is wrong with it reported. The type is judged whatever the place is. -/
def collect (side : String) (d : Declaration) : StateM SchemaReport (Option Field) := do
  let place? ← d.collectPlace side
  match DeclaredType.ofValue d.type with
  | .error e => do
    d.report side (.unknownType e)
    pure none
  | .ok type => pure (place?.map fun place => ⟨d.name, type, place, d.location side⟩)

end Declaration

end HttpContract
