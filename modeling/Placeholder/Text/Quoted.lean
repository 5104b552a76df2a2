import Placeholder.Unicode.Classes

/-!
# Quotations

A character or a text set between quotation marks so that everything in it can be seen: line ends,
the mark itself and the backslash are written with a backslash, and what has no visible form of its
own is named by its code point.
-/
namespace Placeholder.Text

/-- A single character stands between apostrophes, a text between double marks. -/
inductive Quotation where
  | character
  | text
  deriving DecidableEq, Repr

def Quotation.mark : Quotation → Char
  | .character => '\''
  | .text => '"'

def hexadecimal (n : Nat) : List Char := Nat.toDigits 16 n

def codePoint (c : Char) : List Char :=
  ['\\', 'u', '\x7b'] ++ hexadecimal c.toNat ++ ['\x7d']

/-- Whether a character shows on its own, without one before it. -/
def isSelfContained (c : Char) : Bool :=
  Unicode.isPrintable c && (!Unicode.isGraphemeExtender c || Unicode.isHalfWidthVoicingMark c)

/-- How a character is written inside a quotation. -/
def Quotation.escape (quotation : Quotation) (c : Char) : List Char :=
  if c = '\x00' then ['\\', '0']
  else if c = '\t' then ['\\', 't']
  else if c = '\r' then ['\\', 'r']
  else if c = '\n' then ['\\', 'n']
  else if c = '\\' ∨ c = quotation.mark then ['\\', c]
  else if isSelfContained c then [c]
  else codePoint c

/-- The characters, escaped and between their marks. -/
def Quotation.write (quotation : Quotation) (text : List Char) : String :=
  String.ofList (quotation.mark :: text.flatMap quotation.escape ++ [quotation.mark])

def quoteChar (c : Char) : String := Quotation.character.write [c]

def quoteText (text : String) : String := Quotation.text.write text.toList

end Placeholder.Text
