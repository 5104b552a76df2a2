import Placeholder.Resolver.Basic

/-!
# Settings

What a resolver can be told without writing code: its delimiter, what stands for a placeholder
without a value, whether it has a cache and how large, and how long values may be kept. Settings may
be changed after they were read, so they are checked again whenever a resolver is made of them.
-/
namespace Placeholder

/-- Settings of a resolver. Those that nobody chose have their standard values. -/
structure Settings where
  fallback : Option String := none
  preserveUnknown : Bool := false
  delimiter : Char := Delimiter.percent.char
  cacheEnabled : Bool := true
  maxEntries : UInt64 := Cache.standardCapacity
  defaultTtl : Ttl := .standard
  deriving DecidableEq

namespace Settings

/-- Refuses a character that cannot delimit, then a cache that could hold nothing. -/
def check (s : Settings) : Except Error Delimiter := do
  let delimiter ← Delimiter.ofChar s.delimiter
  if s.cacheEnabled && s.maxEntries == 0 then throw .emptyCache
  return delimiter

def capacity? (s : Settings) : Option UInt64 :=
  if s.cacheEnabled then some s.maxEntries else none

def registry {σ : Type} (s : Settings) : Registry σ := Registry.empty.withDefaultTtl s.defaultTtl

def cache? (s : Settings) (clock : Clock) : Option Cache :=
  s.capacity?.map fun capacity => .empty capacity clock

def resolver {σ : Type} (s : Settings) : Except Error (Resolver σ) := do
  let delimiter ← s.check
  return { delimiter, fallback := s.fallback, preserveUnknown := s.preserveUnknown }

end Settings
end Placeholder
