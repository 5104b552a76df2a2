import Placeholder.Error

/-!
# Delimiters

A delimiter is a character that stands on both sides of a token. What may occur in a name, and what
no token may hold, cannot delimit one.
-/
namespace Placeholder

def isDelimiter (c : Char) : Bool :=
  !(Unicode.isAlphabetic c || Unicode.isNumeric c || Unicode.isWhitespace c ||
    Unicode.isControl c || c == '_')

structure Delimiter where
  char : Char
  is_delimiter : isDelimiter char = true
  deriving DecidableEq, Repr

namespace Delimiter

/-- Takes a character as delimiter if it can be one. -/
def ofChar (c : Char) : Except Error Delimiter :=
  if h : isDelimiter c = true then .ok ⟨c, h⟩ else .error (.invalidDelimiter c)

def percent : Delimiter := ⟨'%', by decide⟩

end Delimiter
end Placeholder
