import HttpContract.Text.Ranges

/-!
# White space around a text

Two classes of white space are in use. White space proper is the property White_Space of Unicode; the blanks are white
space and the four information separators U+001C to U+001F. Names, type names and settings are stripped of blanks, the
numbers in wire text of white space.
-/

namespace HttpContract.Text

/-- Boundaries of the code points with the property White_Space. -/
def whiteBoundaries : List Nat :=
  [0x9, 0xE, 0x20, 0x21, 0x85, 0x86, 0xA0, 0xA1, 0x1680, 0x1681, 0x2000, 0x200B, 0x2028, 0x202A, 0x202F, 0x2030,
    0x205F, 0x2060, 0x3000, 0x3001]

/-- Whether a character is white space. -/
def isWhite (c : Char) : Bool := inRanges whiteBoundaries c.toNat

/-- Whether a character is a blank: white space or an information separator. -/
def isBlank (c : Char) : Bool := isWhite c || (0x1C ≤ c.toNat && c.toNat ≤ 0x1F)

/-- The characters without those at the end that satisfy `p`. -/
def dropEndWhile (p : Char → Bool) (cs : List Char) : List Char := (cs.reverse.dropWhile p).reverse

/-- The characters without those at either end that satisfy `p`. -/
def trimWhile (p : Char → Bool) (cs : List Char) : List Char := dropEndWhile p (cs.dropWhile p)

/-- Stripping never makes a text longer. -/
theorem length_trimWhile_le (p : Char → Bool) (cs : List Char) : (trimWhile p cs).length ≤ cs.length := by
  simp only [trimWhile, dropEndWhile, List.length_reverse]
  refine Nat.le_trans (List.dropWhile_sublist p).length_le ?_
  rw [List.length_reverse]
  exact (List.dropWhile_sublist p).length_le

/-- The text without the blanks around it. -/
def strip (s : String) : String := String.ofList (trimWhile isBlank s.toList)

/-- The text without the blanks at its end. -/
def stripEnd (s : String) : String := String.ofList (dropEndWhile isBlank s.toList)

/-- White space is blank. -/
theorem isBlank_of_isWhite {c : Char} (h : isWhite c = true) : isBlank c = true := by
  simp [isBlank, h]

end HttpContract.Text
