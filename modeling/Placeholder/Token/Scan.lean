import Placeholder.Text.Utf8
import Placeholder.Token.Body
import Placeholder.Token.Delimiter

/-!
# Finding tokens

One pass over a text finds its tokens. Outside a candidate the pass looks for a delimiter; inside it
gathers the body up to the next one. If the body is well formed both delimiters belong to a token
and the pass is outside again; if not, the delimiter just met may open the next token, so a stray
delimiter hides nothing that follows it.
-/
namespace Placeholder

/-- The candidate that a pass is in: where it opened and its body so far, last character first. -/
structure Candidate where
  start : Nat
  gathered : List Char
  deriving DecidableEq, Repr

namespace Delimiter

/-- Tokens of the text that begins at a position, in the order in which they stand. -/
def scan (d : Delimiter) : (position : Nat) → Option Candidate → List Char → List Token
  | _, _, [] => []
  | position, none, c :: rest =>
    let next := position + c.utf8Size
    if c = d.char then d.scan next (some ⟨position, []⟩) rest
    else d.scan next none rest
  | position, some candidate, c :: rest =>
    let next := position + c.utf8Size
    if c = d.char then
      match Body.read? d.char candidate.gathered.reverse with
      | some body => Token.ofBody candidate.start next body :: d.scan next none rest
      | none => d.scan next (some ⟨position, []⟩) rest
    else d.scan next (some ⟨candidate.start, c :: candidate.gathered⟩) rest

def tokens (d : Delimiter) (text : String) : List Token := d.scan 0 none text.toList

/-- A text without two delimiters has no token. -/
def mayHaveTokens (d : Delimiter) (text : String) : Bool := 2 ≤ text.toList.count d.char

def strip (d : Delimiter) (text : List Char) : List Char :=
  match text with
  | [] => []
  | c :: rest => if c = d.char ∧ rest.getLast? = some d.char then rest.dropLast else text

/-- Reads a whole text as one token, with or without its delimiters. -/
def token? (d : Delimiter) (text : String) : Option Token :=
  (Body.read? d.char (d.strip text.toList)).map (Token.ofBody 0 (Text.byteLength text.toList))

end Delimiter
end Placeholder
