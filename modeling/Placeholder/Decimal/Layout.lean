import Placeholder.Decimal.Shortest

/-!
# How a floating point number is laid out

The digits come from the shortest decimal that reads back. A layout says from where on a number is
written with an exponent instead of in positions; the rest is common: a whole number keeps `.0`, the
mantissa has one digit before its point, and the exponent has no plus sign and no leading zeros.
-/
namespace Placeholder.Decimal

structure Layout where
  /-- Numbers with fewer places before the point than this are written with an exponent. -/
  leastPlaces : Int
  /-- Numbers with more places before the point than this are written with an exponent. -/
  mostPlaces : Int
  /-- The choice between two equally near decimals. -/
  tie : Tie
  deriving DecidableEq, Repr

/-- Digits with their point after `places` of them. -/
def positional (digits : List Char) (places : Int) : List Char :=
  if places ≤ 0 then
    ['0', '.'] ++ List.replicate (-places).toNat '0' ++ digits
  else if digits.length ≤ places.toNat then
    digits ++ List.replicate (places.toNat - digits.length) '0' ++ ['.', '0']
  else
    digits.take places.toNat ++ '.' :: digits.drop places.toNat

/-- Digits with the point after the first of them and a power of ten. -/
def scientific (digits : List Char) (places : Int) : List Char :=
  let mantissa := match digits with
    | [] => ['0']
    | [d] => [d]
    | d :: rest => d :: '.' :: rest
  mantissa ++ 'e' :: (toString (places - 1)).toList

/-- The digits of a number without the zeros at their end. -/
def significant (n : Nat) : List Char :=
  ((Nat.toDigits 10 n).reverse.dropWhile (· = '0')).reverse

def Layout.magnitude (layout : Layout) (m : Magnitude) : List Char :=
  if m.mantissa = 0 then ['0', '.', '0']
  else
    let decimal := m.shortest layout.tie
    let places := (Nat.toDigits 10 decimal.digits).length + decimal.exponent
    let digits := significant decimal.digits
    if layout.leastPlaces ≤ places ∧ places ≤ layout.mostPlaces then positional digits places
    else scientific digits places

def Layout.write (layout : Layout) (x : Float) : String :=
  match unpack x with
  | .notANumber => "NaN"
  | .infinite negative => if negative then "-inf" else "inf"
  | .finite negative m =>
    String.ofList ((if negative then ['-'] else []) ++ layout.magnitude m)

end Placeholder.Decimal
