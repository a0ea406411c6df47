import HttpContract.Text.Percent

/-!
# Form coding

A query string is a list of pairs: keys and values are percent coded with `+` for a space, joined by `=`, and the pairs
by `&`. Reading skips empty stretches between ampersands, splits each at its first `=`, and gives a stretch without one
the empty value.
-/

namespace HttpContract.Text.Form

/-- The written form of a byte: a space is a plus sign. -/
def encodeByte (b : UInt8) : List Char :=
  if b == 0x20 then ['+'] else Percent.encodeByte b

/-- The written form of a key or value. -/
def encodeText (s : String) : List Char := (utf8 s).flatMap encodeByte

/-- The key or value that a written form stands for. -/
def decodeText (cs : List Char) : String :=
  Percent.decode (String.ofList (cs.map fun c => if c == '+' then ' ' else c))

/-- The written form of a pair. -/
def encodePair (pair : String × String) : List Char := encodeText pair.1 ++ '=' :: encodeText pair.2

/-- The query string of a list of pairs. -/
def encode (pairs : List (String × String)) : String :=
  String.ofList (['&'].intercalate (pairs.map encodePair))

/-- The pair that a stretch stands for. -/
def decodePair (cs : List Char) : String × String :=
  (decodeText (cs.takeWhile (· != '=')), decodeText ((cs.dropWhile (· != '=')).drop 1))

/-- The pairs of a query string, in order. -/
def decode (s : String) : List (String × String) :=
  ((s.toList.splitOn '&').filter (! ·.isEmpty)).map decodePair

/-- The values paired with a key, in order. -/
def valuesOf (key : String) (pairs : List (String × String)) : List String :=
  pairs.filterMap fun pair => if pair.1 == key then some pair.2 else none

end HttpContract.Text.Form
