/-!
# Spans of time

Times are whole milliseconds in 64 bits, and sums and products that do not fit stay at the largest
such number. A duration is finer: whole seconds and nanoseconds.
-/
namespace Placeholder

def largest : Nat := UInt64.size - 1

/-- The number of 64 bits that is nearest to `n` from below. -/
def saturate (n : Nat) : UInt64 := UInt64.ofNat (min n largest)

theorem toNat_saturate (n : Nat) : (saturate n).toNat = min n largest := by
  have bound : min n largest < 2 ^ 64 := by
    simp only [largest, UInt64.size]
    omega
  rw [saturate, UInt64.toNat_ofNat', Nat.mod_eq_of_lt bound]

structure Duration where
  seconds : UInt64
  nanos : Nat
  nanos_lt : nanos < 1000000000 := by omega
  deriving DecidableEq, Repr

namespace Duration

def toMillis (d : Duration) : Nat := d.seconds.toNat * 1000 + d.nanos / 1000000

def ofMillis (millis : UInt64) : Duration where
  seconds := UInt64.ofNat (millis.toNat / 1000)
  nanos := millis.toNat % 1000 * 1000000

end Duration
end Placeholder
