import Placeholder.Text.Ascii

/-!
# Reading decimal numbers

A decimal literal stands for the binary64 number nearest to it. Exponents are bounded before any
power is computed: far beyond the range of binary64 a literal is infinite or zero whatever its
digits are.
-/
namespace Placeholder.Decimal

/-- The number `digits * 10 ^ exponent` with a sign. -/
structure Literal where
  negative : Bool
  digits : Nat
  exponent : Int
  deriving DecidableEq, Repr

def Literal.toFloat (l : Literal) : Float :=
  let places := (Nat.toDigits 10 l.digits).length + l.exponent
  let magnitude : Float :=
    if l.digits = 0 ∨ places < -400 then 0
    else if 400 < places then 1 / 0
    else Float.ofScientific l.digits (l.exponent < 0) l.exponent.natAbs
  if l.negative then -magnitude else magnitude

def sign : List Char → Bool × List Char
  | '-' :: rest => (true, rest)
  | '+' :: rest => (false, rest)
  | text => (false, text)

def whole? (text : List Char) : Option Nat :=
  if text.isEmpty then none else Text.number? 10 text

/-- Digits with an optional point, at least one digit in all. -/
def mantissa? (text : List Char) : Option (Nat × Nat) :=
  let front := text.takeWhile (· ≠ '.')
  let back := (text.dropWhile (· ≠ '.')).drop 1
  (whole? (front ++ back)).map fun digits => (digits, back.length)

/-- A number without its sign: a mantissa and an optional exponent. -/
def unsigned? (negative : Bool) (text : List Char) : Option Literal := do
  let isMark (c : Char) : Bool := c == 'e' || c == 'E'
  let (digits, fraction) ← mantissa? (text.takeWhile (!isMark ·))
  match text.dropWhile (!isMark ·) with
  | [] => some ⟨negative, digits, -(fraction : Int)⟩
  | _ :: rest =>
    let (below, power) := sign rest
    let n ← whole? power
    some ⟨negative, digits, (if below then -(n : Int) else n) - fraction⟩

/-- Reads a number: `NaN`, `inf`, `infinity` in any case or a decimal literal. -/
def float? (text : String) : Option Float :=
  let (negative, rest) := sign text.toList
  let word := Text.foldCase (String.ofList rest)
  if word = "nan" then some (0 / 0)
  else if word = "inf" ∨ word = "infinity" then some (if negative then -1 / 0 else 1 / 0)
  else (unsigned? negative rest).map Literal.toFloat

end Placeholder.Decimal
