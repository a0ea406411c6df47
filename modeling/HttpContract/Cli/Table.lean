import HttpContract.Number.Binary64
import HttpContract.Text.Fitting

/-!
# Tables

A table has a title, columns with headings, and rows of cells. It is drawn with lines around its cells. A column is as wide
as its widest cell. Where that is too much for the screen, the widest of the columns that wrap give way first.
-/

namespace HttpContract.Cli

/-- A column: its heading, and whether its cells wrap. A cell that does not wrap is cut at the width of the column. -/
structure Column where
  heading : String
  wraps : Bool
  deriving DecidableEq, Repr

/-- A table; its rows have a cell for each column. -/
structure Table where
  title : String
  columns : List Column
  rows : List (List String)
  deriving DecidableEq, Repr

namespace Table

/-- The cells of blanks beside the text of a cell. -/
def padding : Nat := 2

/-- The width of a column with some texts, at most that of the screen. -/
def columnWidth (screen : Nat) (texts : List String) : Nat :=
  (texts.map fun text => min screen (Text.widest text.toList + padding)).foldl max 0

/-- The widths that the columns ask for. -/
def askedWidths (t : Table) (screen : Nat) : List Nat :=
  t.columns.mapIdx fun i column => columnWidth screen (column.heading :: t.rows.map fun row => row[i]?.getD "")

/-- Widths with some cells taken from those that are marked, in equal shares and at most so many from each. -/
def takeFrom (most : Nat) : Nat → List (Nat × Bool) → List (Nat × Bool)
  | _, [] => []
  | excess, (width, marked) :: rest =>
    if marked then
      let share := min (min most width) (Binary64.roundQuotient excess (1 + rest.countP (·.2)))
      (width - share, marked) :: takeFrom most (excess - share) rest
    else (width, marked) :: takeFrom most excess rest

/-- Widths of columns, marked where they wrap, with the widest of these brought down until the screen has room for all or
until they are equal and nothing is left of them. -/
def narrowFrom (screen : Nat) : Nat → List (Nat × Bool) → List (Nat × Bool)
  | 0, columns => columns
  | steps + 1, columns =>
    let excess := Text.total (columns.map (·.1)) - screen
    let wrapping := (columns.filter (·.2)).map (·.1)
    let most := wrapping.foldl max 0
    let next := (wrapping.filter (· != most)).foldl max 0
    if excess == 0 || most == 0 then columns
    else
      let narrowed := takeFrom (min excess (most - next)) excess (columns.map fun c => (c.1, c.2 && c.1 == most))
      narrowFrom screen steps (List.zipWith (fun c n => (n.1, c.2)) columns narrowed)

/-- The widths of the columns on a screen that has so many cells for them. -/
def widths (t : Table) (screen : Nat) : List Nat :=
  let asked := t.askedWidths screen
  let narrowed := (narrowFrom screen (Text.total asked) (List.zipWith (fun w c => (w, c.wraps)) asked t.columns)).map (·.1)
  (takeFrom screen (Text.total narrowed - screen) (narrowed.map fun w => (w, w != 0))).map (·.1)

/-- A line across the table. -/
def rule (left fill middle right : Char) (widths : List Nat) : List Char :=
  left :: [middle].intercalate (widths.map (List.replicate · fill)) ++ [right]

/-- The lines of a cell in a column of a width, each after a blank; none if one of them cannot be cut. A column without
room for more than blanks is empty. -/
def cellLines (column : Column) (width : Nat) (text : String) : Option (List (List Char)) :=
  let set := if column.wraps then Text.setLines else Text.limitLines
  if width ≤ padding then some [] else (set .cut (width - padding) text.toList).map (·.map (' ' :: ·))

/-- The lines of a row, if all can be cut. A row is as high as its highest cell. -/
def rowLines (edge : Char) (columns : List (Column × Nat)) (row : List String) : Option (List (List Char)) := do
  let cells ← (columns.zip row).mapM fun ((column, width), text) => do
    return (width, ← cellLines column width text)
  let height := (cells.map (·.2.length)).foldl max 1
  return (List.range height).map fun i =>
    edge :: [edge].intercalate (cells.map fun (width, lines) => Text.padLine width (lines[i]?.getD [])) ++ [edge]

/-- The lines of the title over a table of a width, each in the middle; none if one of them cannot be cut. -/
def titleLines (t : Table) (width : Nat) : Option (List (List Char)) :=
  (Text.wordLines .folded width t.title.toList).mapM fun line => do
    let line ← Text.limitLine .folded width (Text.dropEndWhile Text.isBlank line)
    return List.replicate ((width - Text.cells line) / 2) ' ' ++ line

/-- The lines of a table on a screen of a width; none if one of them cannot be cut. -/
def lines (t : Table) (screen : Nat) : Option (List (List Char)) := do
  let edges := t.columns.length + 1
  let widths := t.widths (screen - edges)
  let columns := t.columns.zip widths
  let title ← t.titleLines (Text.total widths + edges)
  let head ← rowLines '┃' columns (t.columns.map (·.heading))
  let rows ← t.rows.mapM (rowLines '│' columns)
  return title ++ rule '┏' '━' '┳' '┓' widths :: head ++ rule '┡' '━' '╇' '┩' widths :: rows.flatten ++
    [rule '└' '─' '┴' '┘' widths]

end Table

end HttpContract.Cli
