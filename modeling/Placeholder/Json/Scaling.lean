import Placeholder.Json.Value
import Placeholder.Text.Ascii

/-!
# Numbers of a JSON text

A whole number that fits 64 bits is exact. Any other number is floating point: its leading digits
are gathered in 64 bits as long as they fit, and the result is scaled by a power of ten in steps,
each a single rounded product or quotient. The steps are part of the format, since a number that is
rounded twice may differ in its last bit from the nearest one.
-/
namespace Placeholder.Json.Number

/-- Digits gathered so far: what they spell, and the power of ten they have to be scaled by. -/
structure Gathered where
  significand : Nat
  exponent : Int
  deriving DecidableEq, Repr

def fits (significand digit : Nat) : Bool := significand * 10 + digit < UInt64.size

/-- Digits before the point. From the first that does not fit on, a digit only scales. -/
def gatherWhole : Nat → List Nat → Gathered
  | significand, [] => ⟨significand, 0⟩
  | significand, d :: rest =>
    if fits significand d then gatherWhole (significand * 10 + d) rest
    else ⟨significand, (rest.length + 1 : Nat)⟩

/-- Digits after the point. From the first that does not fit on, they are passed over. -/
def gatherFraction : Gathered → List Nat → Gathered
  | g, [] => g
  | g, d :: rest =>
    if fits g.significand d then gatherFraction ⟨g.significand * 10 + d, g.exponent - 1⟩ rest
    else g

def powerOfTen (n : Nat) : Float := Float.ofScientific 1 false n

/-- Scales by a power of ten in at most `steps` quotients of `10 ^ 308` and one last step; none
when the result is too large. -/
def scale : (steps : Nat) → Float → Int → Option Float
  | 0, x, _ => some x
  | steps + 1, x, exponent =>
    if exponent.natAbs ≤ 308 then
      if 0 ≤ exponent then
        let product := x * powerOfTen exponent.natAbs
        if product.isInf then none else some product
      else some (x / powerOfTen exponent.natAbs)
    else if x == 0 then some x
    else if 0 ≤ exponent then none
    else scale steps (x / powerOfTen 308) (exponent + 308)

/-- The power of ten as it is written: beyond 31 bits only its sign counts. -/
inductive Power where
  | exact (n : Int)
  | huge (negative : Bool)
  deriving DecidableEq, Repr

def largestPower : Nat := 2147483647

/-- The power that digits with a sign spell. -/
def powerOf (negative : Bool) (n : Nat) : Power :=
  if largestPower < n then .huge negative
  else .exact (if negative then -(n : Int) else n)

/-- A power kept within 31 bits and a sign. -/
def clampPower (n : Int) : Int := max (-2147483648) (min n largestPower)

/-- The parts of a number in a text: digits before and after the point, and the power of ten. -/
structure Parts where
  negative : Bool
  whole : List Nat
  fraction : Option (List Nat)
  power : Option Power
  deriving DecidableEq, Repr

/-- The number that the parts say; none when it is too large for binary64. -/
def ofParts? (parts : Parts) : Option Number :=
  let signed (x : Float) : Number := .float (if parts.negative then -x else x)
  let front := gatherWhole 0 parts.whole
  let gathered := gatherFraction front (parts.fraction.getD [])
  let significand := (UInt64.ofNat gathered.significand).toFloat
  match parts.fraction, parts.power with
  | none, none =>
    if front.exponent ≠ 0 then (scale 4 significand front.exponent).map signed
    else if !parts.negative then some (.natural (UInt64.ofNat front.significand))
    else if 0 < front.significand ∧ front.significand ≤ 9223372036854775808 then
      some (.negative (Int64.ofInt (-(front.significand : Int))))
    else some (signed significand)
  | _, none => (scale 4 significand gathered.exponent).map signed
  | _, some (.huge below) =>
    if gathered.significand ≠ 0 ∧ !below then none else some (signed 0)
  | _, some (.exact n) =>
    (scale 4 significand (clampPower (gathered.exponent + n))).map signed

end Placeholder.Json.Number
