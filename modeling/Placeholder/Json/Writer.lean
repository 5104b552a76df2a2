import Placeholder.Json.Value
import Placeholder.Decimal.Layout
import Placeholder.Text.Quoted

/-!
# Writing JSON

Values are written without blanks. A floating point number has the fewest digits that read back and
keeps `.0` when it is whole, so it is never read back as a whole number.
-/
namespace Placeholder.Json

/-- Exponents are used from `1e16` on and below `1e-5`. -/
def numberLayout : Decimal.Layout where
  leastPlaces := -4
  mostPlaces := 16
  tie := .even

/-- A number, with a point or an exponent only if it was read with one. -/
def Number.write : Number → String
  | .natural n => toString n.toNat
  | .negative n => toString n.toInt
  | .float x => numberLayout.write x

def writeChar (c : Char) : List Char :=
  if c = '"' ∨ c = '\\' then ['\\', c]
  else if c = '\n' then ['\\', 'n']
  else if c = '\r' then ['\\', 'r']
  else if c = '\t' then ['\\', 't']
  else if c = '\x08' then ['\\', 'b']
  else if c = '\x0c' then ['\\', 'f']
  else if c.toNat < 0x20 then
    let written := Text.hexadecimal c.toNat
    ['\\', 'u'] ++ List.replicate (4 - written.length) '0' ++ written
  else [c]

def writeString (s : String) : String :=
  String.ofList ('"' :: s.toList.flatMap writeChar ++ ['"'])

mutual

def write : Json → String
  | .null => "null"
  | .bool b => if b then "true" else "false"
  | .number n => n.write
  | .string s => writeString s
  | .array items => "[" ++ writeItems items ++ "]"
  | .object members => "\x7b" ++ writeMembers members ++ "\x7d"

def writeItems : List Json → String
  | [] => ""
  | [item] => write item
  | item :: rest => write item ++ "," ++ writeItems rest

def writeMembers : List (String × Json) → String
  | [] => ""
  | [(key, value)] => writeString key ++ ":" ++ write value
  | (key, value) :: rest => writeString key ++ ":" ++ write value ++ "," ++ writeMembers rest

end

end Placeholder.Json
