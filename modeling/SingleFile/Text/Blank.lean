import SingleFile.Text
import SingleFile.Text.CodeRanges

/-!
# Blanks

Two classes of blank characters. `isWhiteSpace` is the Unicode property
White_Space; `isBlank` adds the four information separators, U+001C to
U+001F. Text around an expression or a name is trimmed of blanks;
settings are trimmed of white space.
-/

namespace SingleFile

namespace Text

/-- The code points with the property White_Space. -/
def whiteSpaceRanges : List CodeRange :=
  [(0x9, 0xd), (0x20, 0x20), (0x85, 0x85), (0xa0, 0xa0), (0x1680, 0x1680), (0x2000, 0x200a),
   (0x2028, 0x2029), (0x202f, 0x202f), (0x205f, 0x205f), (0x3000, 0x3000)]

/-- Whether a character has the property White_Space. -/
def isWhiteSpace (c : Char) : Bool := inRanges whiteSpaceRanges c

/-- Whether a character is blank: white space or an information separator. -/
def isBlank (c : Char) : Bool := isWhiteSpace c || inRanges [(0x1c, 0x1f)] c

/-- The text without the characters of a class at either end. -/
def trimOf (p : Char → Bool) (t : Text) : Text :=
  ((t.dropWhile p).reverse.dropWhile p).reverse

/-- The text without blanks at either end. -/
def trim (t : Text) : Text := trimOf isBlank t

/-- White space is blank. -/
theorem isBlank_of_isWhiteSpace {c : Char} (h : isWhiteSpace c = true) : isBlank c = true := by
  simp [isBlank, h]

end Text

end SingleFile
