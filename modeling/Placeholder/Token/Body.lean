import Placeholder.Token.Basic
import Placeholder.Unicode.Classes

/-!
# What stands between two delimiters

A body is an optional mark, a name, an underscore and an identifier. The name ends at the first
underscore after the mark; the identifier is all the rest and may hold more of them.
-/
namespace Placeholder

structure Body where
  relational : Bool
  name : List Char
  identifier : List Char
  deriving DecidableEq, Repr

/-- Characters of the name of an expansion. -/
def isNameChar (c : Char) : Bool := c.isAlphanum || c == '-'

namespace Body

def isForeign (delimiter c : Char) : Bool :=
  c == delimiter || Unicode.isWhitespace c || Unicode.isControl c

/-- The text before and after its first underscore. -/
def cutName : List Char → Option (List Char × List Char)
  | [] => none
  | c :: rest =>
    if c = '_' then some ([], rest)
    else (cutName rest).map fun parts => (c :: parts.1, parts.2)

/-- The text without the relational mark, and whether it had the mark. -/
def stripMark : List Char → Bool × List Char
  | 'r' :: 'e' :: 'l' :: '_' :: rest => (true, rest)
  | text => (false, text)

/-- Reads a body; none if it is not well formed. -/
def read? (delimiter : Char) (text : List Char) : Option Body :=
  if text.any (isForeign delimiter) then none
  else
    match cutName (stripMark text).2 with
    | none => none
    | some (name, identifier) =>
      if name.isEmpty || identifier.isEmpty || !name.all isNameChar then none
      else some ⟨(stripMark text).1, name, identifier⟩

end Body

/-- The token of a body between two positions. Names count without regard to case. -/
def Token.ofBody (start stop : Nat) (body : Body) : Token where
  start := start
  stop := stop
  expansion := Text.foldCase (String.ofList body.name)
  identifier := String.ofList body.identifier
  relational := body.relational

end Placeholder
