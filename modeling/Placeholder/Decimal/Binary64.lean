/-!
# Binary floating point numbers taken apart

A binary64 number is a sign and either one of the two exceptions or a whole number times a power of
two. Everything exact about such a number is computed from those whole numbers.
-/
namespace Placeholder.Decimal

/-- A magnitude `mantissa * 2 ^ exponent`. -/
structure Magnitude where
  mantissa : Nat
  exponent : Int
  /-- The next smaller number is only half a unit of the mantissa away. -/
  narrowBelow : Bool
  deriving DecidableEq, Repr

inductive Unpacked where
  | notANumber
  | infinite (negative : Bool)
  | finite (negative : Bool) (magnitude : Magnitude)
  deriving DecidableEq, Repr

/-- The leading bit of a mantissa of full length, which is not among the 64. -/
def implicitBit : Nat := 4503599627370496

/-- Reads the 64 bits: sign, eleven bits of exponent, 52 bits of fraction. -/
def Unpacked.ofBits (bits : Nat) : Unpacked :=
  let negative := (bits >>> 63) % 2 == 1
  let scale : Nat := (bits >>> 52) % 2048
  let fraction : Nat := bits % implicitBit
  if scale = 2047 then
    if fraction = 0 then .infinite negative else .notANumber
  else if scale = 0 then
    .finite negative ⟨fraction, -1074, false⟩
  else
    .finite negative ⟨implicitBit + fraction, (scale : Int) - 1075, fraction == 0 && 1 < scale⟩

def unpack (x : Float) : Unpacked := Unpacked.ofBits x.toBits.toNat

end Placeholder.Decimal
