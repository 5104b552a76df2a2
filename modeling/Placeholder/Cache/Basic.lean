import Placeholder.Cache.Key
import Placeholder.Time.Clock
import Placeholder.Time.Ttl

/-!
# Caches

A cache keeps values for a time. Each entry carries its date and its time to live, and what is stale
is decided when it is asked for: a stale entry is never answered, and asking drops it.

Which keys a full cache gives up is a matter of policy. Here it takes no new ones, which is one
policy of several; only what is said of caches that have a place left holds for all of them.
-/
namespace Placeholder

/-- A kept value. -/
structure Entry where
  value : String
  written : UInt64
  ttl : Ttl
  deriving DecidableEq, Repr

def Entry.isStale (entry : Entry) (now : UInt64) : Bool := entry.ttl.isExpired entry.written now

/-- A cache by a clock. -/
structure Cache where
  /-- The number of entries at most. -/
  capacity : UInt64
  clock : Clock
  entries : Table Key Entry

namespace Cache

def standardCapacity : UInt64 := 10000

def empty (capacity : UInt64) (clock : Clock) : Cache := ⟨capacity, clock, .empty⟩

/-- Drops an entry if it is still the one that was seen. -/
def evictIfUnchanged (cache : Cache) (key : Key) (seen : Entry) : Cache :=
  if cache.entries.find? key = some seen then { cache with entries := cache.entries.erase key }
  else cache

/-- The value under a key, unless it is stale; a stale one is dropped. -/
def get (cache : Cache) (key : Key) : Option String × Cache :=
  match cache.entries.find? key with
  | none => (none, cache)
  | some entry =>
    if entry.isStale cache.clock.now then (none, cache.evictIfUnchanged key entry)
    else (some entry.value, cache)

def invalidate (cache : Cache) (key : Key) : Cache :=
  { cache with entries := cache.entries.erase key }

/-- Whether there is a place for a key: its own or a free one. -/
def admits (cache : Cache) (key : Key) : Bool :=
  cache.entries.contains key || decide (cache.entries.size < cache.capacity.toNat)

/-- Keeps a value for a time. With no time to live it is not kept, and neither is what was there. -/
def put (cache : Cache) (key : Key) (value : String) (ttl : Ttl) : Cache :=
  if ttl.isNone then cache.invalidate key
  else if cache.admits key then
    { cache with entries := cache.entries.insert key ⟨value, cache.clock.now, ttl⟩ }
  else cache

/-- Drops everything made for a subject, as viewer or target too. -/
def invalidateSubject (cache : Cache) (whom : Subject) : Cache :=
  { cache with entries := cache.entries.filter fun key _ => !key.mentions whom }

def clear (cache : Cache) : Cache := { cache with entries := .empty }

/-- The number of entries, also of stale ones that nobody has asked for. -/
def size (cache : Cache) : Nat := cache.entries.size

def isEmpty (cache : Cache) : Bool := cache.size == 0

def advance (cache : Cache) (span : Duration) : Cache :=
  { cache with clock := cache.clock.advance span }

def setClock (cache : Cache) (reading : UInt64) : Cache :=
  { cache with clock := cache.clock.set reading }

end Cache
end Placeholder
