import HttpContract.Cli.Markup
import HttpContract.Cli.Table
import HttpContract.Json.Writer

/-!
# The screen

What a command prints is laid out in lines: texts in markup, which the screen breaks where they are too wide, values as
JSON, which keeps its own lines, and tables. Nothing is shown of a thing that cannot be laid out, because its markup is
wrong or one of its lines cannot be cut.
-/

namespace HttpContract.Cli

/-- Why a thing cannot be laid out. -/
inductive ScreenFault where
  | markup (fault : Markup.Fault)
  | uncutLine
  deriving DecidableEq, Repr

/-- The fault in words. -/
def ScreenFault.message : ScreenFault → String
  | markup fault => fault.message
  | uncutLine => "a line of the screen cannot be cut"

/-- The lines of something to print, if it can be laid out. -/
abbrev Output := Except ScreenFault (List String)

namespace Screen

/-- The cells of a line of the screen. -/
def width : Nat := 10000

/-- Lines as they are shown, without blanks at their ends. -/
def shown (lines : List (List Char)) : List String := lines.map fun line => Text.stripEnd (String.ofList line)

/-- What markup shows. -/
def read (markup : String) : Except ScreenFault String := (Markup.read markup).mapError .markup

/-- The lines if there are any. -/
def ofLines : Option (List (List Char)) → Output
  | some lines => .ok (shown lines)
  | none => .error .uncutLine

/-- A text in markup. -/
def text (markup : String) : Output := do
  let s ← read markup
  ofLines (Text.setLines .folded width s.toList)

/-- A value as indented JSON. -/
def json (v : Value) : Output :=
  .ok (shown ((Markup.visible (Json.writeIndented v).toList).toList.splitOn '\n'))

/-- A table with a title in markup and rows of texts. -/
def table (title : String) (columns : List Column) (rows : List (List String)) : Output := do
  let title ← read title
  let rows ← rows.mapM fun row => row.mapM fun s => read (Markup.escape s)
  let t : Table := ⟨title, columns, rows⟩
  ofLines ((t.lines width).map (·.map fun line => Text.takeCells width (Text.clusters line)))

end Screen

end HttpContract.Cli
