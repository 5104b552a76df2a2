import Placeholder.Unicode.Alphabetic
import Placeholder.Unicode.Numeric
import Placeholder.Unicode.GraphemeExtend
import Placeholder.Unicode.Unprintable

/-!
# Classes of characters

The classes that tokens, delimiters and quotations are made of. Each class decides the ASCII
characters by itself and looks every other character up in its table, so a fact about an ASCII
character never opens a table.
-/
namespace Placeholder.Unicode

def beyondAscii (c : Char) : Bool := 0x7F < c.toNat

def isAlphabetic (c : Char) : Bool :=
  c.isAlpha || (beyondAscii c && alphabeticRanges.has c)

def isNumeric (c : Char) : Bool :=
  c.isDigit || (beyondAscii c && numericRanges.has c)

/-- The characters with the Unicode property `White_Space`. -/
def whitespaceRanges : Ranges :=
  [(0x9, 0xD), (0x20, 0x20), (0x85, 0x85), (0xA0, 0xA0), (0x1680, 0x1680), (0x2000, 0x200A),
   (0x2028, 0x2029), (0x202F, 0x202F), (0x205F, 0x205F), (0x3000, 0x3000)]

/-- Blanks and line ends of all scripts. -/
def isWhitespace (c : Char) : Bool := whitespaceRanges.has c

/-- The Unicode category `Cc`. -/
def controlRanges : Ranges := [(0x0, 0x1F), (0x7F, 0x9F)]

def isControl (c : Char) : Bool := controlRanges.has c

/-- Characters that attach to the one before them. -/
def isGraphemeExtender (c : Char) : Bool :=
  beyondAscii c && graphemeExtendRanges.has c

/-- The voicing marks of half-width kana. They extend the grapheme before them, but each takes a
place of its own in a line. -/
def isHalfWidthVoicingMark (c : Char) : Bool := c == '\uff9e' || c == '\uff9f'

def isPrintable (c : Char) : Bool :=
  if beyondAscii c then !unprintableRanges.has c else !isControl c

theorem isAlphabetic_of_isAlpha {c : Char} (h : c.isAlpha = true) : isAlphabetic c = true := by
  simp [isAlphabetic, h]

theorem isNumeric_of_isDigit {c : Char} (h : c.isDigit = true) : isNumeric c = true := by
  simp [isNumeric, h]

end Placeholder.Unicode
