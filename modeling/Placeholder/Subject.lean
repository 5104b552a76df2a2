import Placeholder.Text.Ascii

/-!
# Subjects

A subject is whoever a placeholder is resolved for, known by a 128-bit identity. Four spellings of
an identity are read; one is written.
-/
namespace Placeholder

structure Subject where
  identity : BitVec 128
  deriving DecidableEq, Repr

namespace Subject

def compare (a b : Subject) : Ordering :=
  Ord.compare a.identity.toNat b.identity.toNat

def ofDigits? (digits : List Char) : Option Subject :=
  if digits.length = 32 then
    (Text.number? 16 digits).map fun n => ⟨BitVec.ofNat 128 n⟩
  else none

/-- The lengths of the groups of the hyphenated spelling. -/
def groups : List Nat := [8, 4, 4, 4, 12]

/-- Cuts a text into groups of the given lengths with a hyphen between two groups. -/
def cutGroups : List Nat → List Char → Option (List Char)
  | [], text => if text.isEmpty then some [] else none
  | [n], text => if text.length = n then some text else none
  | n :: rest, text =>
    match text.drop n with
    | '-' :: more => (cutGroups rest more).map (text.take n ++ ·)
    | _ => none

def ofGroups? (text : List Char) : Option Subject := do
  ofDigits? (← cutGroups groups text)

/-- Reads an identity: bare digits, five groups, five groups in braces, or five groups as a name
of the `uuid` namespace. The name and the digits may be of either case. -/
def ofText? (text : String) : Option Subject :=
  let chars := text.toList
  let urn := "urn:uuid:".toList
  if chars.length = 32 then ofDigits? chars
  else if chars.length = 36 then ofGroups? chars
  else if chars.length = 38 ∧ chars.head? = some '\x7b' ∧ chars.getLast? = some '\x7d' then
    ofGroups? ((chars.drop 1).take 36)
  else if chars.length = 45 ∧ (chars.take urn.length).map Char.toLower = urn then
    ofGroups? (chars.drop urn.length)
  else none

/-- All 32 digits of an identity, in lower case. -/
def digits (s : Subject) : List Char :=
  let written := Nat.toDigits 16 s.identity.toNat
  List.replicate (32 - written.length) '0' ++ written

/-- Digits in groups of the given lengths, with a hyphen between two groups. -/
def joinGroups : List Nat → List Char → List Char
  | [], _ => []
  | [n], digits => digits.take n
  | n :: rest, digits => digits.take n ++ '-' :: joinGroups rest (digits.drop n)

def toText (s : Subject) : String := String.ofList (joinGroups groups s.digits)

end Subject
end Placeholder
