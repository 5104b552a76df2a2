import Placeholder.Toml.Moments
import Placeholder.Toml.Numbers
import Placeholder.Toml.Strings
import Placeholder.Toml.Tree

/-!
# Reading TOML

A document is read into statements, one a line, and the statements into a tree of tables. It is read
as a whole or not at all. Arrays and inline tables nest at most 79 deep, which is what the recursion
of the reader is on, and a dotted key has at most 79 parts.
-/
namespace Placeholder.Toml
namespace Reader

open Text (Reader)

/-- One more than the number of brackets that may be open, and than the parts of a key. -/
def nesting : Nat := 80

def isKeyChar (c : Char) : Bool := c.isAlphanum || c == '_' || c == '-'

def keyPart : Reader String := fun text =>
  if text.head? = some '"' ∨ text.head? = some '\'' then lineString text
  else
    let bare := text.takeWhile isKeyChar
    if bare.isEmpty then none else some (String.ofList bare, text.dropWhile isKeyChar)

/-- Parts of a key with points between them; `fuel` bounds their number. -/
def keyParts : (fuel : Nat) → Reader (List String)
  | 0, _ => none
  | fuel + 1, text => do
    let (part, rest) ← keyPart (text.dropWhile isBlank)
    match rest.dropWhile isBlank with
    | '.' :: rest =>
      let (more, rest) ← keyParts fuel rest
      return (part :: more, rest)
    | rest => return ([part], rest)

def key : Reader (List String × String) := fun text => do
  let (parts, rest) ← keyParts (nesting - 1) text
  let last ← parts.getLast?
  return ((parts.dropLast, last), rest)

/-- What follows blanks, line ends and comments. A comment ends with its line. -/
def skipLines (inComment : Bool) : List Char → Option (List Char)
  | [] => if inComment then none else some []
  | c :: rest =>
    if inComment then
      if c = '\n' then skipLines false rest
      else if isVisible c then skipLines true rest
      else none
    else if isBlank c || c == '\n' then skipLines false rest
    else if c = '#' then skipLines true rest
    else some (c :: rest)

def arrayItems (item : Reader Toml) : (fuel : Nat) → Reader (List Toml)
  | 0, _ => none
  | fuel + 1, text => do
    match ← skipLines false text with
    | ']' :: rest => return ([], rest)
    | text =>
      let (first, rest) ← item text
      match ← skipLines false rest with
      | ',' :: rest =>
        let (more, rest) ← arrayItems item fuel rest
        return (first :: more, rest)
      | ']' :: rest => return ([first], rest)
      | _ => none

def pair (item : Reader Toml) : Reader (List String × String × Toml) := fun text => do
  let ((path, name), rest) ← key text
  let rest ← after? '=' rest
  let (v, rest) ← item (rest.dropWhile isBlank)
  return ((path, name, v), rest)

def inlinePairs (item : Reader Toml) : (fuel : Nat) → Node.Members → Reader Node.Members
  | 0, _, _ => none
  | fuel + 1, members, text => do
    let ((path, name, v), rest) ← pair item text
    let members ← Node.addPair path name v members
    match rest.dropWhile isBlank with
    | ',' :: rest => inlinePairs item fuel members rest
    | '\x7d' :: rest => return (members, rest)
    | _ => none

def inlineTable (item : Reader Toml) : Reader Toml := fun text =>
  match text.dropWhile isBlank with
  | '\x7d' :: rest => some (.table [], rest)
  | text =>
    (inlinePairs item (text.length + 1) [] text).map fun found =>
      (.table (Node.closeMembers found.1), found.2)

def boolean : Reader Toml
  | 't' :: 'r' :: 'u' :: 'e' :: rest => some (.boolean true, rest)
  | 'f' :: 'a' :: 'l' :: 's' :: 'e' :: rest => some (.boolean false, rest)
  | _ => none

/-- A value that nests at most `depth` deep. -/
def value : (depth : Nat) → Reader Toml
  | 0, _ => none
  | _ + 1, [] => none
  | depth + 1, c :: rest =>
    if c = '"' ∨ c = '\'' then (string (c :: rest)).map fun found => (.string found.1, found.2)
    else if c = '[' then
      if depth = 0 then none
      else (arrayItems (value depth) (rest.length + 1) rest).map fun found =>
        (.array found.1, found.2)
    else if c = '\x7b' then if depth = 0 then none else inlineTable (value depth) rest
    else if c = 't' ∨ c = 'f' then boolean (c :: rest)
    else if isMoment (c :: rest) then (moment? (c :: rest)).map fun rest => (.moment, rest)
    else number (c :: rest)

def endOfLine (text : List Char) : Option (List Char) :=
  let rest := match text.dropWhile isBlank with
    | '#' :: comment => comment.dropWhile isVisible
    | rest => rest
  match rest with
  | [] => some []
  | '\n' :: rest => some rest
  | _ => none

/-- A document while it is read: its tables so far, and the path of the one whose header came
last. -/
structure Draft where
  members : Node.Members
  here : List String

/-- Reads the lines of a document; `fuel` bounds their number. -/
def lines : (fuel : Nat) → Draft → List Char → Option Draft
  | 0, _, _ => none
  | fuel + 1, draft, text =>
    match text.dropWhile isBlank with
    | [] => some draft
    | '\n' :: rest => lines fuel draft rest
    | '#' :: rest => do lines fuel draft (← endOfLine ('#' :: rest))
    | '[' :: '[' :: rest => do
      let ((path, name), rest) ← key rest
      let rest ← endOfLine (← after? ']' (← after? ']' rest))
      let members ← Node.addElement path name draft.members
      lines fuel ⟨members, path ++ [name]⟩ rest
    | '[' :: rest => do
      let ((path, name), rest) ← key rest
      let rest ← endOfLine (← after? ']' rest)
      let members ← Node.addHeader path name draft.members
      lines fuel ⟨members, path ++ [name]⟩ rest
    | text => do
      let ((path, name, v), rest) ← pair (value nesting) text
      let members ← Node.changeAt false (fun _ current => Node.addPair path name v current)
        .header draft.here draft.members
      lines fuel ⟨members, draft.here⟩ (← endOfLine rest)

/-- A text with line ends of two characters made into one. -/
def joinLineEnds : List Char → List Char
  | '\r' :: '\n' :: rest => '\n' :: joinLineEnds rest
  | c :: rest => c :: joinLineEnds rest
  | [] => []

/-- A text without the mark that tells its byte order. -/
def dropByteOrderMark : List Char → List Char
  | '\ufeff' :: rest => rest
  | text => text

end Reader

/-- The members of the table that a document is. -/
def read? (text : String) : Option (List (String × Toml)) := do
  let chars := Reader.joinLineEnds (Reader.dropByteOrderMark text.toList)
  let draft ← Reader.lines (chars.length + 1) ⟨[], []⟩ chars
  return Node.closeMembers draft.members

end Placeholder.Toml
