import Placeholder.Text.Ascii
import Placeholder.Text.Reader

/-!
# Dates and times of TOML

A date is a year, a month and a day of the calendar; a time has hours, minutes and seconds, and
maybe a fraction. A date may be followed by a time, and that by a distance from universal time. Each
of the readers here says only where its part ends.
-/
namespace Placeholder.Toml.Reader

def field (count low high : Nat) : Text.Reader Nat := fun text =>
  let digits := text.take count
  if digits.length = count ∧ digits.all Char.isDigit then do
    let n ← Text.number? 10 digits
    if low ≤ n ∧ n ≤ high then some (n, text.drop count) else none
  else none

def after? (c : Char) : List Char → Option (List Char)
  | d :: rest => if d = c then some rest else none
  | [] => none

def isLeapYear (year : Nat) : Bool := year % 4 == 0 && (year % 100 != 0 || year % 400 == 0)

def daysOf (year month : Nat) : Nat :=
  if month = 2 then if isLeapYear year then 29 else 28
  else if month = 4 ∨ month = 6 ∨ month = 9 ∨ month = 11 then 30
  else 31

def date? (text : List Char) : Option (List Char) := do
  let (year, rest) ← field 4 0 9999 text
  let (month, rest) ← field 2 1 12 (← after? '-' rest)
  let (_, rest) ← field 2 1 (daysOf year month) (← after? '-' rest)
  return rest

/-- What follows a fraction of a second, if there is one. -/
def secondFraction (text : List Char) : List Char :=
  match text with
  | '.' :: c :: rest => if c.isDigit then rest.dropWhile Char.isDigit else text
  | _ => text

def time? (text : List Char) : Option (List Char) := do
  let (_, rest) ← field 2 0 23 text
  let (_, rest) ← field 2 0 59 (← after? ':' rest)
  let (_, rest) ← field 2 0 60 (← after? ':' rest)
  return secondFraction rest

/-- What follows a distance from universal time, if there is one. -/
def offset? (text : List Char) : Option (List Char) :=
  match text with
  | [] => some []
  | c :: rest =>
    if c = 'Z' ∨ c = 'z' then some rest
    else if c = '+' ∨ c = '-' then do
      let (_, rest) ← field 2 0 23 rest
      let (_, rest) ← field 2 0 59 (← after? ':' rest)
      return rest
    else some text

/-- Whether a text begins with digits and a given character after them. -/
def beginsWith (count : Nat) (c : Char) (text : List Char) : Bool :=
  (text.take count).all Char.isDigit && text[count]? == some c

/-- What follows a moment; none if it is wrong. -/
def moment? (text : List Char) : Option (List Char) :=
  if beginsWith 2 ':' text then time? text
  else do
    let rest ← date? text
    match rest with
    | c :: more =>
      if (c = 'T' ∨ c = 't' ∨ c = ' ') ∧ beginsWith 2 ':' more then offset? (← time? more)
      else some rest
    | [] => some []

/-- Whether a text begins like a moment and not like a number. -/
def isMoment (text : List Char) : Bool := beginsWith 4 '-' text || beginsWith 2 ':' text

end Placeholder.Toml.Reader
