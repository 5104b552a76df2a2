import Placeholder.Subject

/-!
# Locations

Where a subject is. Distances are taken inside one world only.
-/
namespace Placeholder

structure Location where
  world : String
  x : Float
  y : Float
  z : Float

namespace Location

/-- The distance of two places of one world. -/
def distance? (a b : Location) : Option Float :=
  if a.world = b.world then
    let dx := a.x - b.x
    let dy := a.y - b.y
    let dz := a.z - b.z
    some (dx * dx + dy * dy + dz * dz).sqrt
  else none

def same (a b : Location) : Bool :=
  a.world == b.world && a.x == b.x && a.y == b.y && a.z == b.z

end Location

/-- What comes of asking where a subject is. -/
inductive Sighting where
  | found (place : Location)
  | unknown
  /-- The asking itself broke down. -/
  | panic (message : String)

/-- Tells where subjects are. It is foreign code with a state `σ` of its own, so it may give
different answers at different times. Like a handler it does not turn back to a resolver. -/
abbrev Locator (σ : Type) := Subject → σ → Sighting × σ

end Placeholder
