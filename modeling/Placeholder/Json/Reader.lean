import Placeholder.Json.Scaling
import Placeholder.Text.Reader

/-!
# Reading JSON

A text is read as a whole or not at all; nothing is repaired. Values nest at most 127 deep, which
is also what the recursion of the reader is on.
-/
namespace Placeholder.Json

namespace Reader

open Text (Reader)

def isBlank (c : Char) : Bool := c == ' ' || c == '\t' || c == '\n' || c == '\r'

def skipBlanks (text : List Char) : List Char := text.dropWhile isBlank

def word (expected : List Char) (value : Json) : Reader Json := fun text =>
  if text.take expected.length = expected then some (value, text.drop expected.length) else none

def digits (text : List Char) : List Nat × List Char :=
  ((text.takeWhile Char.isDigit).map fun c => c.toNat - '0'.toNat, text.dropWhile Char.isDigit)

def digits1 : Reader (List Nat) := fun text =>
  match digits text with
  | ([], _) => none
  | found => some found

def fraction : Reader (Option (List Nat))
  | '.' :: rest => (digits1 rest).map fun found => (some found.1, found.2)
  | text => some (none, text)

def power (text : List Char) : Option (Option Number.Power × List Char) :=
  match text with
  | [] => some (none, [])
  | c :: rest =>
    if c == 'e' || c == 'E' then
      let negative := rest.head? == some '-'
      let unsigned := if negative || rest.head? == some '+' then rest.drop 1 else rest
      (digits1 unsigned).map fun found =>
        (some (Number.powerOf negative (found.1.foldl (fun n d => n * 10 + d) 0)), found.2)
    else some (none, text)

/-- A number. A leading zero stands alone. -/
def number : Reader Number := fun text => do
  let negative := text.head? == some '-'
  let (whole, afterWhole) ← digits1 (if negative then text.drop 1 else text)
  if whole.head? = some 0 ∧ whole.length ≠ 1 then none
  let (fraction, afterFraction) ← fraction afterWhole
  let (power, rest) ← power afterFraction
  let value ← Number.ofParts? ⟨negative, whole, fraction, power⟩
  return (value, rest)

def unit16 : Reader Nat
  | a :: b :: c :: d :: rest => (Text.number? 16 [a, b, c, d]).map fun n => (n, rest)
  | _ => none

/-- The character that follows a backslash and `u`: one unit, or two that form a pair. -/
def codeUnits : Reader Char := fun text => do
  let (high, rest) ← unit16 text
  if 0xD800 ≤ high ∧ high < 0xDC00 then
    match rest with
    | '\\' :: 'u' :: more =>
      let (low, rest) ← unit16 more
      if 0xDC00 ≤ low ∧ low < 0xE000 then
        return (Char.ofNat (0x10000 + (high - 0xD800) * 0x400 + (low - 0xDC00)), rest)
      else none
    | _ => none
  else if 0xDC00 ≤ high ∧ high < 0xE000 then none
  else return (Char.ofNat high, rest)

/-- The character that a backslash introduces. -/
def escaped : Reader Char
  | '"' :: rest => some ('"', rest)
  | '\\' :: rest => some ('\\', rest)
  | '/' :: rest => some ('/', rest)
  | 'b' :: rest => some ('\x08', rest)
  | 'f' :: rest => some ('\x0c', rest)
  | 'n' :: rest => some ('\n', rest)
  | 'r' :: rest => some ('\r', rest)
  | 't' :: rest => some ('\t', rest)
  | 'u' :: rest => codeUnits rest
  | _ => none

/-- The characters of a string up to its closing mark; `fuel` bounds their number. -/
def characters : (fuel : Nat) → Reader (List Char)
  | 0, _ => none
  | _ + 1, [] => none
  | fuel + 1, c :: rest =>
    if c = '"' then some ([], rest)
    else if c = '\\' then do
      let (c, rest) ← escaped rest
      let (more, rest) ← characters fuel rest
      return (c :: more, rest)
    else if c.toNat < 0x20 then none
    else do
      let (more, rest) ← characters fuel rest
      return (c :: more, rest)

def string : Reader String := fun text =>
  match text with
  | '"' :: rest =>
    (characters (rest.length + 1) rest).map fun found => (String.ofList found.1, found.2)
  | _ => none

/-- Items with commas between them up to a closing mark; `fuel` bounds their number. -/
def separated {α : Type} (close : Char) (item : Reader α) : (fuel : Nat) → Reader (List α)
  | 0, _ => none
  | fuel + 1, text => do
    let (first, rest) ← item text
    match skipBlanks rest with
    | [] => none
    | c :: rest =>
      if c = ',' then
        let (more, rest) ← separated close item fuel rest
        return (first :: more, rest)
      else if c = close then return ([first], rest)
      else none

/-- A list between marks, possibly of nothing. -/
def enclosed {α : Type} (close : Char) (item : Reader α) : Reader (List α) := fun text =>
  match skipBlanks text with
  | [] => none
  | c :: rest =>
    if c = close then some ([], rest) else separated close item (text.length + 1) text

def member (item : Reader Json) : Reader (String × Json) := fun text => do
  let (key, rest) ← string (skipBlanks text)
  match skipBlanks rest with
  | ':' :: rest =>
    let (value, rest) ← item rest
    return ((key, value), rest)
  | _ => none

/-- A value that nests at most `depth` deep. -/
def value : (depth : Nat) → Reader Json
  | 0, _ => none
  | depth + 1, text =>
    let text := skipBlanks text
    match text with
    | [] => none
    | c :: rest =>
      if c = '"' then (string text).map fun found => (.string found.1, found.2)
      else if c = '[' then
        if depth = 0 then none
        else (enclosed ']' (value depth) rest).map fun found => (.array found.1, found.2)
      else if c = '\x7b' then
        if depth = 0 then none
        else
          (enclosed '\x7d' (member (value depth)) rest).map fun found =>
            (ofMembers found.1, found.2)
      else if c = 'n' then word "null".toList .null text
      else if c = 't' then word "true".toList (.bool true) text
      else if c = 'f' then word "false".toList (.bool false) text
      else (number text).map fun found => (.number found.1, found.2)

/-- One more than the number of arrays and objects that may be open at once. -/
def nesting : Nat := 128

end Reader

def read? (text : String) : Option Json := do
  let (json, rest) ← Reader.value Reader.nesting text.toList
  if (Reader.skipBlanks rest).isEmpty then return json else none

end Placeholder.Json
