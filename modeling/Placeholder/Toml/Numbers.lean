import Placeholder.Decimal.Literal
import Placeholder.Text.Reader
import Placeholder.Toml.Value

/-!
# Numbers of TOML

Integers have 64 bits with a sign, and other bases have their marks. Underscores may stand between
two digits. A number with a fraction or an exponent is floating point, and is refused if it is above
the largest one.
-/
namespace Placeholder.Toml.Reader

open Text (Reader)

def moreDigits (isDigit : Char → Bool) : Reader (List Char)
  | [] => some ([], [])
  | '_' :: c :: rest =>
    if isDigit c then (moreDigits isDigit rest).map fun found => (c :: found.1, found.2) else none
  | c :: rest =>
    if isDigit c then (moreDigits isDigit rest).map fun found => (c :: found.1, found.2)
    else if c = '_' then none
    else some ([], c :: rest)

def someDigits (isDigit : Char → Bool) : Reader (List Char)
  | [] => none
  | c :: rest =>
    if isDigit c then (moreDigits isDigit rest).map fun found => (c :: found.1, found.2) else none

/-- Digits without a leading zero, or zero alone. -/
def decimalDigits : Reader (List Char)
  | '0' :: rest => some (['0'], rest)
  | text => someDigits Char.isDigit text

def integer? (n : Int) : Option Toml :=
  if Int64.minValue.toInt ≤ n ∧ n ≤ Int64.maxValue.toInt then some (.integer n) else none

def isDigitOf (base : Nat) (c : Char) : Bool :=
  match Text.hexDigit? c with
  | some d => d < base
  | none => false

/-- The rest of an integer of another base. -/
def based (base : Nat) : Reader Toml := fun text => do
  let (digits, rest) ← someDigits (isDigitOf base) text
  let value ← integer? (← Text.number? base digits)
  return (value, rest)

def fraction : Reader (List Char)
  | '.' :: rest => someDigits Char.isDigit rest
  | text => some ([], text)

def exponent (text : List Char) : Option (Option Int × List Char) :=
  match text with
  | [] => some (none, [])
  | c :: rest =>
    if c = 'e' ∨ c = 'E' then do
      let (negative, unsigned) := Decimal.sign rest
      let (digits, rest) ← someDigits Char.isDigit unsigned
      let n ← Text.number? 10 digits
      return (some (if negative then -(n : Int) else n), rest)
    else some (none, text)

/-- A number in decimal digits after its sign. -/
def decimal (negative : Bool) : Reader Toml := fun text => do
  let (whole, afterWhole) ← decimalDigits text
  let (places, afterFraction) ← fraction afterWhole
  let (power, rest) ← exponent afterFraction
  let digits ← Text.number? 10 (whole ++ places)
  if places.isEmpty ∧ power.isNone then
    let value ← integer? (if negative then -(digits : Int) else digits)
    return (value, rest)
  else
    let x := Decimal.Literal.toFloat ⟨negative, digits, power.getD 0 - places.length⟩
    if x.isInf ∧ !negative then none else return (.float x, rest)

def number : Reader Toml
  | '0' :: 'x' :: rest => based 16 rest
  | '0' :: 'o' :: rest => based 8 rest
  | '0' :: 'b' :: rest => based 2 rest
  | text =>
    let (negative, unsigned) := Decimal.sign text
    match unsigned with
    | 'i' :: 'n' :: 'f' :: rest => some (.float (if negative then -1 / 0 else 1 / 0), rest)
    | 'n' :: 'a' :: 'n' :: rest => some (.float (0 / 0), rest)
    | unsigned => decimal negative unsigned

end Placeholder.Toml.Reader
