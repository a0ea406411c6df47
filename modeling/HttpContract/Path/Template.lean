import HttpContract.Text.Quoted

/-!
# Path templates

A template is a path whose segments are literal texts or placeholders, a colon and a name. It starts with a slash.
-/

namespace HttpContract

/-- A segment of a template. -/
inductive Segment where
  | literal (text : String)
  | placeholder (name : String)
  deriving DecidableEq, Repr

namespace Segment

/-- The segment that a text stands for. -/
def ofChars : List Char → Segment
  | ':' :: name => placeholder (String.ofList name)
  | text => literal (String.ofList text)

/-- The segment as it is written. -/
def text : Segment → String
  | literal text => text
  | placeholder name => ":" ++ name

/-- The name of a placeholder. -/
def name? : Segment → Option String
  | literal _ => none
  | placeholder name => some name

end Segment

/-- The segments of a path; one slash in front counts as its root. -/
def pathSegments (path : List Char) : List (List Char) :=
  match path with
  | '/' :: rest => rest.splitOn '/'
  | _ => path.splitOn '/'

/-- The segments of a path as texts. -/
def splitPath (path : String) : List String := (pathSegments path.toList).map String.ofList

/-- A template: its text and the segments of it. -/
structure PathTemplate where
  raw : String
  segments : List Segment
  deriving DecidableEq, Repr

/-- A text that is no template because it does not start with a slash. -/
structure UnrootedPath where
  path : String
  deriving DecidableEq, Repr

/-- The error in words. -/
def UnrootedPath.message (e : UnrootedPath) : String :=
  "path template must start with '/': " ++ Text.quoted e.path

namespace PathTemplate

/-- Whether a path starts with a slash. -/
def isRooted (path : String) : Bool := path.toList.head? == some '/'

/-- The template of a path that starts with a slash. -/
def ofRooted (path : String) : PathTemplate := ⟨path, (pathSegments path.toList).map Segment.ofChars⟩

/-- The template that a text stands for. -/
def parse (path : String) : Except UnrootedPath PathTemplate :=
  if isRooted path then .ok (ofRooted path) else .error ⟨path⟩

/-- The names of the placeholders in order. -/
def placeholderNames (t : PathTemplate) : List String := t.segments.filterMap Segment.name?

end PathTemplate

end HttpContract
