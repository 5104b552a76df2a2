import Placeholder.Text.Ascii

/-!
# Tokens

A token is one place of a text where a value belongs. It says where it stands, in bytes, with its
delimiters, and what it asks for: an identifier of an expansion, and whether the answer concerns a
viewer and a target. Its key names what it asks for without saying where it stands; equal keys in
one text get one answer.
-/
namespace Placeholder

/-- The mark in front of an expansion that makes a token relational. -/
def relationalMark : String := "rel_"

structure Token where
  /-- Position of the opening delimiter. -/
  start : Nat
  /-- Position after the closing delimiter. -/
  stop : Nat
  expansion : String
  identifier : String
  relational : Bool
  deriving DecidableEq, Repr

namespace Token

/-- What the token asks for, in one word. -/
def key (t : Token) : String :=
  (if t.relational then relationalMark else "") ++ t.expansion ++ "_" ++ t.identifier

def length (t : Token) : Nat := t.stop - t.start

def isEmpty (t : Token) : Bool := t.start == t.stop

end Token
end Placeholder
