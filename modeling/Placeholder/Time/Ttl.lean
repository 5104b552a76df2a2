import Placeholder.Time.Duration

/-!
# Times to live

How long a value may be served again, in milliseconds. Zero means never: a value written with it is
stale in the same instant.
-/
namespace Placeholder

structure Ttl where
  millis : UInt64
  deriving DecidableEq, Repr

namespace Ttl

def never : Ttl := ⟨0⟩

def second : Ttl := ⟨1000⟩

def short : Ttl := ⟨5000⟩

/-- For values whose handler does not say. -/
def standard : Ttl := ⟨30000⟩

def minute : Ttl := ⟨60000⟩

def long : Ttl := ⟨300000⟩

def hour : Ttl := ⟨3600000⟩

/-- A number of seconds, at most the longest time that fits. -/
def ofSeconds (seconds : UInt64) : Ttl := ⟨saturate (seconds.toNat * 1000)⟩

/-- Whole milliseconds of a span, at most the longest time that fits. -/
def ofDuration (span : Duration) : Ttl := ⟨saturate span.toMillis⟩

def toDuration (ttl : Ttl) : Duration := .ofMillis ttl.millis

/-- Whether values with this time are never kept. -/
def isNone (ttl : Ttl) : Bool := ttl.millis == 0

def max (a b : Ttl) : Ttl := if a.millis ≤ b.millis then b else a

def min (a b : Ttl) : Ttl := if a.millis ≤ b.millis then a else b

def compare (a b : Ttl) : Ordering := Ord.compare a.millis.toNat b.millis.toNat

/-- The time stretched by a factor, to the nearest millisecond with halves away from zero. A factor
that is not above zero gives `never`. -/
def multiply (ttl : Ttl) (factor : Float) : Ttl :=
  if factor.isNaN || factor ≤ 0 then never
  else
    let scaled := ttl.millis.toFloat * factor
    if 18446744073709551616.0 ≤ scaled then ⟨saturate largest⟩
    else ⟨scaled.round.toUInt64⟩

/-- Whether a value written at one reading is stale at another. A clock that went back counts as
no time passed. -/
def isExpired (ttl : Ttl) (written now : UInt64) : Bool :=
  ttl.millis.toNat ≤ now.toNat - written.toNat

def toText (ttl : Ttl) : String :=
  if ttl.isNone then "none" else toString ttl.millis.toNat ++ "ms"

end Ttl
end Placeholder
