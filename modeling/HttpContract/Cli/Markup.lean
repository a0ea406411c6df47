import HttpContract.Cli.Emoji

/-!
# Markup

Lines on the screen are written with tags in brackets that set the style and are not shown. A tag is an opening bracket, a
small letter or one of `#`, `/` and `@`, anything without another opening bracket, and a closing bracket. A tag with a slash
closes one that is open. Text that is not to be read as a tag is escaped: backslashes before a tag are doubled and one is
added. Names of pictures between colons are shown as the pictures.
-/

namespace HttpContract.Markup

/-- Whether a character can open a tag. -/
def startsTag (c : Char) : Bool := ('a' ≤ c && c ≤ 'z') || c == '#' || c == '/' || c == '@'

/-- Whether a tag follows an opening bracket. -/
def tagFollows : List Char → Bool
  | c :: rest => startsTag c && (rest.dropWhile fun c => c != '[' && c != ']').head? == some ']'
  | [] => false

/-- The text with backslashes at hand escaped. -/
def escapeFrom (backslashes : Nat) : List Char → List Char
  | [] => List.replicate backslashes '\\'
  | c :: rest =>
    if c == '\\' then escapeFrom (backslashes + 1) rest
    else if c == '[' && tagFollows rest then
      List.replicate (2 * backslashes + 1) '\\' ++ '[' :: escapeFrom 0 rest
    else List.replicate backslashes '\\' ++ c :: escapeFrom 0 rest

/-- A text that shows itself. One backslash at the end is doubled, so that it does not escape what comes after it. -/
def escape (s : String) : String :=
  let cs := escapeFrom 0 s.toList
  String.ofList (if cs.getLast? == some '\\' && cs.dropLast.getLast? != some '\\' then cs ++ ['\\'] else cs)

/-- A piece of markup: a text, a tag that sets a style, or a tag that closes the one of a name, or the last one when it has
no name. -/
inductive Piece where
  | text (cs : List Char)
  | opening (name : String)
  | closing (name : String)
  deriving DecidableEq, Repr

/-- The tag with a text in its brackets. The name of a style ends at an equals sign. -/
def Piece.ofTag (cs : List Char) : Piece :=
  let name (cs : List Char) := Text.strip (Text.lower (String.ofList (cs.takeWhile (· != '='))))
  match cs with
  | '/' :: rest => .closing (name rest)
  | cs => .opening (name cs)

/-- What a reader of markup is in: a text after which backslashes came, an escaped tag or a tag. What was read of it is
in reverse order. -/
inductive State where
  | text (read : List Char) (backslashes : Nat)
  | escaped (read : List Char)
  | tag (read : List Char)

/-- The pieces of markup, from a state on. A backslash before a bracket that opens no tag is left out. -/
def piecesFrom : State → List Char → List Piece
  | .text read backslashes, [] => [.text (read.reverse ++ List.replicate backslashes '\\')]
  | .escaped read, [] => [.text read.reverse]
  | .tag _, [] => []
  | .text read backslashes, c :: rest =>
    if c == '\\' then piecesFrom (.text read (backslashes + 1)) rest
    else if c == '[' && tagFollows rest then
      .text read.reverse :: .text (List.replicate (backslashes / 2) '\\') ::
        piecesFrom (if backslashes % 2 == 1 then .escaped ['['] else .tag []) rest
    else
      let kept := if c == '[' then backslashes - 1 else backslashes
      piecesFrom (.text (c :: (List.replicate kept '\\' ++ read)) 0) rest
  | .escaped read, c :: rest =>
    if c == ']' then .text (c :: read).reverse :: piecesFrom (.text [] 0) rest else piecesFrom (.escaped (c :: read)) rest
  | .tag read, c :: rest =>
    if c == ']' then .ofTag read.reverse :: piecesFrom (.text [] 0) rest else piecesFrom (.tag (c :: read)) rest

/-- The pieces of markup. -/
def pieces (markup : String) : List Piece := piecesFrom (.text [] 0) markup.toList

/-- What is wrong with markup: a tag closes what is not open. -/
inductive Fault where
  | notOpen (name : String)
  | nothingOpen
  deriving DecidableEq, Repr

/-- What is wrong in words. -/
def Fault.message : Fault → String
  | notOpen name => "closing tag '[/" ++ name ++ "]' doesn't match any open tag"
  | nothingOpen => "closing tag '[/]' has nothing to close"

/-- The tags that stay open after a tag of a name is closed, the last one of that name. -/
def close (opened : List String) (name : String) : Except Fault (List String) :=
  if name.isEmpty then (if opened.isEmpty then .error .nothingOpen else .ok (opened.drop 1))
  else if opened.contains name then .ok (opened.erase name)
  else .error (.notOpen name)

/-- What pieces show while some tags are open, the last one first. -/
def shownFrom (opened : List String) : List Piece → Except Fault (List Char)
  | [] => .ok []
  | .text cs :: rest => do .ok (Emoji.replace cs ++ (← shownFrom opened rest))
  | .opening name :: rest => shownFrom (name :: opened) rest
  | .closing name :: rest => do shownFrom (← close opened name) rest

/-- Whether the screen drops a character. -/
def isDropped (c : Char) : Bool := c == '\x07' || c == '\x08' || c == '\x0b' || c == '\x0c' || c == '\r'

/-- A text without the characters that the screen drops. -/
def visible (cs : List Char) : String := String.ofList (cs.filter (!isDropped ·))

/-- What markup shows. -/
def read (markup : String) : Except Fault String := (shownFrom [] (pieces markup)).map visible

example : (read ("[red]" ++ escape "a [b] \\[c] [1]" ++ "[/red]")).toOption = some "a [b] \\[c] [1]" := by decide +kernel
example : (read "[red]a[/green]").toOption = none := by decide +kernel

end HttpContract.Markup
