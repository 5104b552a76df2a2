import Placeholder.Decimal.Binary64

/-!
# The fewest digits that read back

Among the decimals that lie nearer to a binary64 number than to any other, the ones with the fewest
digits are found, and of those the nearest. The search tries one digit, two digits and so on; for
each count it looks at the two decimals of that many digits around the number. All comparisons are
made on whole numbers.
-/
namespace Placeholder.Decimal

structure Scaled where
  digits : Nat
  exponent : Int
  deriving DecidableEq, Repr

/-- Which of two equally near decimals is taken. -/
inductive Tie where
  | up
  | even
  deriving DecidableEq, Repr

/-- The factors that bring multiples of `2 ^ binary` and of `10 ^ decimal` to whole numbers of one
common unit. -/
def commonUnit (binary decimal : Int) : Nat × Nat :=
  (Nat.pow 2 binary.toNat * Nat.pow 10 (-decimal).toNat,
    Nat.pow 10 decimal.toNat * Nat.pow 2 (-binary).toNat)

/-- The number of decimal places before the point, zero or less for numbers below one: the `p`
with `10 ^ (p - 1) ≤ m * 2 ^ e < 10 ^ p`. -/
def Magnitude.places (m : Magnitude) : Int :=
  let whole := m.mantissa * Nat.pow 2 m.exponent.toNat / Nat.pow 2 (-m.exponent).toNat
  if 0 < whole then (Nat.toDigits 10 whole).length
  else
    let unit := Nat.pow 2 (-m.exponent).toNat
    let zeros : Nat :=
      ((List.range 400).find? fun j => unit ≤ m.mantissa * Nat.pow 10 (j + 1)).getD 400
    Int.neg zeros

/-- The decimal on the grid of `count` digits that reads back as the magnitude and is nearest to
it, if the grid has one. -/
def Magnitude.onGrid (m : Magnitude) (tie : Tie) (places : Int) (count : Nat) : Option Scaled :=
  let exponent := places - count
  let (binaryUnit, decimalUnit) := commonUnit (m.exponent - 2) exponent
  let value := 4 * m.mantissa * binaryUnit
  let low := (4 * m.mantissa - if m.narrowBelow then 1 else 2) * binaryUnit
  let high := (4 * m.mantissa + 2) * binaryUnit
  let readsBack (d : Nat) : Bool :=
    let x := d * decimalUnit
    if m.mantissa % 2 = 0 then low ≤ x && x ≤ high else low < x && x < high
  let below := value / decimalUnit
  let above := below + 1
  let toBelow := value - below * decimalUnit
  let toAbove := above * decimalUnit - value
  let pick :=
    if toBelow < toAbove then below
    else if toAbove < toBelow then above
    else match tie with
      | .up => above
      | .even => if below % 2 = 0 then below else above
  if readsBack below && readsBack above then some ⟨pick, exponent⟩
  else if readsBack below then some ⟨below, exponent⟩
  else if readsBack above then some ⟨above, exponent⟩
  else none

/-- The fewest digits that read back. Seventeen always suffice; zero has the digit 0. -/
def Magnitude.shortest (m : Magnitude) (tie : Tie) : Scaled :=
  if m.mantissa = 0 then ⟨0, 0⟩
  else ((List.range 17).findSome? fun n => m.onGrid tie m.places (n + 1)).getD ⟨0, 0⟩

end Placeholder.Decimal
