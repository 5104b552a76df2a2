import Placeholder.Cache.Basic
import Placeholder.Resolver.Custom
import Placeholder.Source
import Placeholder.Token.Scan

/-!
# Resolvers

A resolver is a choice of delimiter, of what stands for a placeholder without a value, and of a
source of values. What changes while it works is its state: the custom resolvers in use, the cache
if there is one, and the state of the foreign code.
-/
namespace Placeholder

/-- What stays as it is while a resolver works. -/
structure Resolver (σ : Type) where
  delimiter : Delimiter := .percent
  /-- What stands for a placeholder without a value; none is the empty text. -/
  fallback : Option String := none
  /-- A placeholder without a value is left as it is. -/
  preserveUnknown : Bool := false
  source : Option (Source σ) := none
  /-- How deep passes may nest inside the outermost one. This stands for the room that calls have;
  what is said of resolvers is said for every such limit. -/
  nestingLimit : Nat := 1000

structure State (σ : Type) where
  customs : Customs σ
  cache : Option Cache
  host : σ

namespace State

variable {σ : Type}

/-- No custom resolver yet. -/
def initial (cache : Option Cache) (host : σ) : State σ := ⟨.empty, cache, host⟩

/-- Does work on the foreign state alone. -/
def onHost {α : Type} (x : Exec σ α) : Exec (State σ) α := fun s =>
  let r := x s.host
  ⟨r.result, { s with host := r.state }, r.events⟩

def registerCustom (s : State σ) (expansion : String) (custom : Custom σ) : Bool × State σ :=
  let (replaced, customs) := s.customs.register expansion custom
  (replaced, { s with customs })

def unregisterCustom (s : State σ) (expansion : String) : Bool × State σ :=
  let (existed, customs) := s.customs.unregister expansion
  (existed, { s with customs })

def hasCustom (s : State σ) (expansion : String) : Bool :=
  (s.customs.ofExpansion? expansion).isSome

def fetch (s : State σ) (key : Key) : Option String × State σ :=
  match s.cache with
  | none => (none, s)
  | some cache =>
    let (found, cache) := cache.get key
    (found, { s with cache := some cache })

def keep (s : State σ) (key : Key) (value : String) (ttl : Ttl) : State σ :=
  { s with cache := s.cache.map fun cache => cache.put key value ttl }

end State
end Placeholder
