import Placeholder.Answer
import Placeholder.Handler.Basic
import Placeholder.Token.Basic

/-!
# Events and counters

Everything worth knowing about a run is reported as an event while it happens: which foreign code
was called, which asked the cache in vain, how each single resolution ended. Counters are read off
the events; nothing else is counted.
-/
namespace Placeholder

inductive Origin where
  /-- A relational token in a context without target. -/
  | gate
  | custom
  /-- A plain token for a relational handler. -/
  | refusal
  | cache
  | registry
  /-- Nobody had a value. -/
  | nothing
  deriving DecidableEq, Repr

/-- The word under which resolutions are counted. -/
def Origin.label : Origin → String
  | custom => "custom"
  | cache => "cache"
  | registry => "registry"
  | gate | refusal | nothing => "empty"

inductive Event where
  /-- A single resolution has ended. -/
  | settled (token : Token) (context : Context) (origin : Origin) (answer : Answer)
  /-- The cache had the value. -/
  | hit
  /-- The cache did not have the value. -/
  | miss
  | handlerCalled (request : Request)
  | customCalled (expansion identifier : String) (context : Context)
  /-- Foreign code of an expansion failed or panicked. -/
  | failed (expansion : String)

inductive Counter where
  | resolutions (source : String)
  | hits
  | misses
  | failures (expansion : String)
  deriving DecidableEq, Repr

def Counter.name : Counter → String
  | resolutions source => "mimir_resolutions_total\x7bsource=" ++ source ++ "\x7d"
  | hits => "mimir_cache_hits_total"
  | misses => "mimir_cache_misses_total"
  | failures expansion => "mimir_handler_failures_total\x7bexpansion=" ++ expansion ++ "\x7d"

/-- The counter that an event adds one to. -/
def Event.counter? : Event → Option Counter
  | settled _ _ origin _ => some (.resolutions origin.label)
  | hit => some .hits
  | miss => some .misses
  | failed expansion => some (.failures expansion)
  | handlerCalled _ => none
  | customCalled _ _ _ => none

/-- What a counter rises by over some events. -/
def count (counter : Counter) (events : List Event) : Nat :=
  (events.filterMap Event.counter?).count counter

/-- All counters that rise over some events, and by how much. -/
def tally (events : List Event) : List (Counter × Nat) :=
  (events.filterMap Event.counter?).eraseDups.map fun counter => (counter, count counter events)

@[simp] theorem count_nil (counter : Counter) : count counter [] = 0 := rfl

@[simp] theorem count_append (counter : Counter) (first second : List Event) :
    count counter (first ++ second) = count counter first + count counter second := by
  simp [count]

end Placeholder
