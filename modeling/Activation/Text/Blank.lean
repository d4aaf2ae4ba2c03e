import Activation.Text.Ranges

/-!
# Blank characters and trimming

A character is **blank** when it separates words: the white space of Unicode together with
the four information separators U+001C to U+001F. Names, scopes and inline pairs are trimmed
of blanks at both ends.
-/

namespace Activation.Text

/-- The blank code points. -/
def blankRanges : Ranges :=
  [(0x09, 0x0D), (0x1C, 0x20), (0x85, 0x85), (0xA0, 0xA0), (0x1680, 0x1680), (0x2000, 0x200A),
   (0x2028, 0x2029), (0x202F, 0x202F), (0x205F, 0x205F), (0x3000, 0x3000)]

example : blankRanges.Ascending = true := by decide

/-- Whether a character is blank. -/
def isBlank (c : Char) : Bool :=
  blankRanges.contains c.toNat

/-- Drop the characters at the end that satisfy `p`. -/
def dropEndWhile (p : Char → Bool) (s : List Char) : List Char :=
  (s.reverse.dropWhile p).reverse

/-- Drop the blanks at both ends. -/
def trim (s : List Char) : List Char :=
  dropEndWhile isBlank (s.dropWhile isBlank)

/-- A text without the blanks at its two ends. -/
def stripped (s : String) : String :=
  String.ofList (trim s.toList)

@[simp] theorem toList_stripped (s : String) : (stripped s).toList = trim s.toList := by
  simp [stripped]

end Activation.Text
