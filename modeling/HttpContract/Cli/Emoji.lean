import HttpContract.Cli.Emoji.Names
import HttpContract.Text.Blank
import HttpContract.Text.LetterCase

/-!
# Pictures in markup

The name of a picture between two colons stands for the picture. The name may end in a choice between the coloured and the
plain form of the picture. What is not a name of a picture stays as it is.
-/

namespace HttpContract.Emoji

/-- The endings that choose a form, and the characters that select it. -/
def forms : List (String × Char) := [("-emoji", '\ufe0f'), ("-text", '\ufe0e')]

/-- The picture under a name in any case. -/
def named? (name : List Char) : Option (List Char) :=
  (pictures.lookup (Text.lower (String.ofList name))).map String.toList

/-- The picture that what stands between two colons stands for. -/
def picture? (text : List Char) : Option (List Char) :=
  match forms.find? fun f => f.1.toList.isSuffixOf text with
  | some (ending, form) => (named? (text.take (text.length - ending.length))).map (· ++ [form])
  | none => named? text

/-- The parts of a text after colons, with pictures for names. A part with a blank is no name, and the colon after it may
begin one. -/
def joinParts : List (List Char) → List Char
  | [] => []
  | [part] => ':' :: part
  | name :: part :: rest =>
    if name.any Text.isBlank then ':' :: name ++ joinParts (part :: rest)
    else (picture? name).getD (':' :: name ++ [':']) ++ part ++ joinParts rest

/-- A text with pictures for their names. -/
def replace (text : List Char) : List Char :=
  match text.splitOn ':' with
  | [] => []
  | part :: rest => part ++ joinParts rest

end HttpContract.Emoji
