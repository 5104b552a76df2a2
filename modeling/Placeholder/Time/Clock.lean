import Placeholder.Time.Duration

/-!
# A clock that is moved by hand

Entries of a cache are dated and aged by this clock alone, so what a cache answers depends on
nothing outside it.
-/
namespace Placeholder

/-- Milliseconds since an arbitrary start. -/
structure Clock where
  now : UInt64
  deriving DecidableEq, Repr

namespace Clock

/-- Later by whole milliseconds of a span, at the latest at the end of the scale. -/
def advance (clock : Clock) (span : Duration) : Clock :=
  ⟨saturate (clock.now.toNat + span.toMillis)⟩

/-- At a given reading, earlier or later. -/
def set (_ : Clock) (reading : UInt64) : Clock := ⟨reading⟩

end Clock
end Placeholder
