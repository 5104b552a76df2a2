import Placeholder.Text.Ascii
import Placeholder.Text.Reader

/-!
# Strings of TOML

Strings are basic, with backslash escapes, or literal, without; both stand on one line between
single marks or on several between triple marks. Line ends are single characters here, however the
document writes them.
-/
namespace Placeholder.Toml.Reader

open Text (Reader)

def isVisible (c : Char) : Bool := c == '\t' || (0x20 ≤ c.toNat && c.toNat != 0x7F)

def isBlank (c : Char) : Bool := c == ' ' || c == '\t'

/-- A code point in so many hexadecimal digits. -/
def scalar (count : Nat) : Reader Char := fun text =>
  if text.length < count then none
  else do
    let n ← Text.number? 16 (text.take count)
    if n < 0xD800 ∨ (0xDFFF < n ∧ n < 0x110000) then some (Char.ofNat n, text.drop count) else none

def escaped : Reader Char
  | 'b' :: rest => some ('\x08', rest)
  | 't' :: rest => some ('\t', rest)
  | 'n' :: rest => some ('\n', rest)
  | 'f' :: rest => some ('\x0c', rest)
  | 'r' :: rest => some ('\r', rest)
  | '"' :: rest => some ('"', rest)
  | '\\' :: rest => some ('\\', rest)
  | 'u' :: rest => scalar 4 rest
  | 'U' :: rest => scalar 8 rest
  | _ => none

def oneLine (mark : Char) (escapes : Bool) : (fuel : Nat) → Reader (List Char)
  | 0, _ => none
  | _ + 1, [] => none
  | fuel + 1, c :: rest =>
    if c = mark then some ([], rest)
    else if escapes && c == '\\' then do
      let (c, rest) ← escaped rest
      let (more, rest) ← oneLine mark escapes fuel rest
      return (c :: more, rest)
    else if isVisible c then do
      let (more, rest) ← oneLine mark escapes fuel rest
      return (c :: more, rest)
    else none

/-- What follows a backslash at the end of a line, where the next line begins. -/
def lineJoin? (text : List Char) : Option (List Char) :=
  match text.dropWhile isBlank with
  | '\n' :: rest => some (rest.dropWhile fun c => isBlank c || c == '\n')
  | _ => none

/-- The rest of a string on several lines. Three marks end it, and up to two more before them belong
to it; `fuel` bounds its characters. -/
def manyLines (mark : Char) (escapes : Bool) : (fuel : Nat) → Reader (List Char)
  | 0, _ => none
  | _ + 1, [] => none
  | fuel + 1, c :: rest =>
    if c = mark then
      let marks := ((c :: rest).takeWhile (· = mark)).length
      if marks < 3 then do
        let (more, rest) ← manyLines mark escapes fuel ((c :: rest).drop marks)
        return (List.replicate marks mark ++ more, rest)
      else
        let own := min (marks - 3) 2
        some (List.replicate own mark, (c :: rest).drop (own + 3))
    else if escapes && c == '\\' then
      match lineJoin? rest with
      | some rest => manyLines mark escapes fuel rest
      | none => do
        let (c, rest) ← escaped rest
        let (more, rest) ← manyLines mark escapes fuel rest
        return (c :: more, rest)
    else if c = '\n' ∨ isVisible c then do
      let (more, rest) ← manyLines mark escapes fuel rest
      return (c :: more, rest)
    else none

/-- A string of one line, from its mark on. -/
def lineString : Reader String
  | [] => none
  | mark :: rest =>
    if mark = '"' ∨ mark = '\'' then
      (oneLine mark (mark == '"') (rest.length + 1) rest).map fun found =>
        (String.ofList found.1, found.2)
    else none

/-- A string, from its mark on. A line end right after triple marks does not count. -/
def string : Reader String
  | [] => none
  | mark :: rest =>
    if (mark = '"' ∨ mark = '\'') ∧ rest.take 2 = [mark, mark] then
      let inside := match rest.drop 2 with
        | '\n' :: more => more
        | more => more
      (manyLines mark (mark == '"') (inside.length + 1) inside).map fun found =>
        (String.ofList found.1, found.2)
    else lineString (mark :: rest)

end Placeholder.Toml.Reader
