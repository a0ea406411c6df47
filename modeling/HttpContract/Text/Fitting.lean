import HttpContract.Text.Blank
import HttpContract.Text.CellWidth

/-!
# Lines of a width

A text is set in lines of so many cells. A tab reaches to the next multiple of eight cells. A word that does not fit begins
a new line, and a word wider than a whole line is folded into several lines or cut short. A line is cut between clusters.
A joiner at the start of a line has no picture to join to, and there the clusters may take fewer cells than the line: one
that is too wide while its clusters leave room cannot be cut.
-/

namespace HttpContract.Text

/-- Characters before the first of some lines. -/
def before (cs : List Char) : List (List Char) → List (List Char)
  | [] => [cs]
  | line :: rest => (cs ++ line) :: rest

/-- The parts of a line between tabs, joined by blanks: one for each tab, and as many more as it takes to reach a multiple
of eight cells. -/
def joinTabbed (column : Nat) : List (List Char) → List Char
  | [] => []
  | [part] => part
  | part :: rest =>
    let reached := column + cells (part ++ [' '])
    let more := (8 - reached % 8) % 8
    part ++ List.replicate (more + 1) ' ' ++ joinTabbed (reached + more) rest

/-- A line with blanks for its tabs. -/
def expandTabs (line : List Char) : List Char := joinTabbed 0 (line.splitOn '\t')

/-- Every second run joined to the run before it. -/
def joinPairs : List (List Char) → List (List Char)
  | word :: blanks :: rest => (word ++ blanks) :: joinPairs rest
  | rest => rest

/-- The words of a line, each with the blanks after it, the first also with those before it. Blanks alone are no word. -/
def words (line : List Char) : List (List Char) :=
  match joinPairs ((line.dropWhile isBlank).splitBy fun a b => isBlank a == isBlank b) with
  | [] => []
  | word :: rest => (line.takeWhile isBlank ++ word) :: rest

/-- Clusters in lines, the first of which has some cells taken already. -/
def foldClusters (width : Nat) : Nat → List Cluster → List (List Char)
  | _, [] => [[]]
  | taken, k :: rest =>
    if width < taken + k.width then [] :: before k.chars (foldClusters width k.width rest)
    else before k.chars (foldClusters width (taken + k.width) rest)

/-- What becomes of a word that is wider than a line. -/
inductive Overlong where
  | folded
  | cut
  deriving DecidableEq, Repr

/-- A word in pieces, each for a line of its own. -/
def Overlong.pieces (o : Overlong) (width : Nat) (word : List Char) : List (List Char) :=
  match o with
  | .folded => foldClusters width 0 (clusters word)
  | .cut => [word]

/-- Words in lines, the first of which is begun or not and has some cells taken already. Blanks after a word need not fit
with it. -/
def fillLines (o : Overlong) (width : Nat) : Bool → Nat → List (List Char) → List (List Char)
  | _, _, [] => [[]]
  | begun, taken, word :: rest =>
    let size := cells (dropEndWhile isBlank word)
    if taken + size ≤ width then before word (fillLines o width true (taken + cells word) rest)
    else
      let pieces := if width < size then o.pieces width word else [word]
      let last := pieces.getLast?.getD []
      let lines := pieces.dropLast ++ before last (fillLines o width true (cells last) rest)
      if begun then [] :: lines else lines

/-- The clusters that some cells have room for, and a blank in the cell where half of a wide one would be. -/
def takeCells : Nat → List Cluster → List Char
  | _, [] => []
  | room, k :: rest =>
    if k.width ≤ room then k.chars ++ takeCells (room - k.width) rest else List.replicate room ' '

/-- How many cells there are together. -/
def total (widths : List Nat) : Nat := widths.foldr (· + ·) 0

/-- The clusters of a line in some cells; none if they leave room. -/
def cutClusters (room : Nat) (line : List Char) : Option (List Char) :=
  let parts := clusters line
  if total (parts.map (·.width)) < room then none else some (takeCells room parts)

/-- A line without what is too wide; none if it cannot be cut. Where words are cut the line ends in an ellipsis. -/
def limitLine (o : Overlong) (width : Nat) (line : List Char) : Option (List Char) :=
  if cells line ≤ width then some line
  else
    match o with
    | .folded => cutClusters width line
    | .cut => (cutClusters (width - 1) line).map (· ++ ['…'])

/-- A line without blanks at its end that are too many. -/
def trimEnd (width : Nat) (line : List Char) : List Char :=
  let blanks := line.length - (dropEndWhile isBlank line).length
  line.take (line.length - min blanks (line.length - width))

/-- A text in lines of words for a width. Blanks at the end of a line and words that are not folded may be too wide. -/
def wordLines (o : Overlong) (width : Nat) (text : List Char) : List (List Char) :=
  (text.splitOn '\n').flatMap fun line =>
    let line := expandTabs line
    match words line with
    | [] => [line]
    | ws => fillLines o width false 0 ws

/-- A text in lines of a width; none if one of them cannot be cut. -/
def setLines (o : Overlong) (width : Nat) (text : List Char) : Option (List (List Char)) :=
  (wordLines o width text).mapM fun line => limitLine o width (trimEnd width line)

/-- A text in lines of a width, each of its own lines for itself; none if one of them cannot be cut. -/
def limitLines (o : Overlong) (width : Nat) (text : List Char) : Option (List (List Char)) :=
  (text.splitOn '\n').mapM fun line => limitLine o width (expandTabs line)

/-- Whether a character ends a line of a text that is measured. -/
def endsLine (c : Char) : Bool :=
  let n := c.toNat
  (0xA ≤ n && n ≤ 0xD) || (0x1C ≤ n && n ≤ 0x1E) || n == 0x85 || n == 0x2028 || n == 0x2029

/-- The cells of the widest line of a text. -/
def widest (text : List Char) : Nat := ((text.splitOnP endsLine).map cells).foldl max 0

/-- A line with blanks at its end up to a width. -/
def padLine (width : Nat) (line : List Char) : List Char := line ++ List.replicate (width - cells line) ' '

example : (setLines .folded 5 "ab cde\tfg".toList).map (·.map String.ofList) = some ["ab ", "cde  ", "fg"] := by
  decide +kernel
example : (setLines .folded 3 "abcdefg h".toList).map (·.map String.ofList) = some ["abc", "def", "g h"] := by
  decide +kernel
example : (limitLines .cut 4 "日本語".toList).map (·.map String.ofList) = some ["日 …"] := by decide +kernel
example : setLines .folded 3 "\u200d\u200d本ab".toList = none := by decide +kernel

end HttpContract.Text
