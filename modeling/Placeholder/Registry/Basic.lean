import Placeholder.Location
import Placeholder.Registry.Family

/-!
# Registries

A registry holds families of handlers by expansion, without regard to case, and knows how long
values may be kept when a handler does not say and where subjects are.
-/
namespace Placeholder

/-- Handlers by expansion. The names of the expansions are in lower case. -/
structure Registry (σ : Type) where
  families : Table String (Family σ)
  defaultTtl : Ttl
  locator : Option (Locator σ)

namespace Registry

variable {σ : Type}

def empty : Registry σ := ⟨.empty, .standard, none⟩

def withDefaultTtl (g : Registry σ) (ttl : Ttl) : Registry σ := { g with defaultTtl := ttl }

def withLocator (g : Registry σ) (locator : Locator σ) : Registry σ :=
  { g with locator := some locator }

/-- The registry with a handler, in place of any other of the same expansion and pattern. -/
def register (g : Registry σ) (handler : Handler σ) : Except Error (Registry σ) :=
  match handler.check with
  | .error e => .error e
  | .ok () =>
    let family := (g.families.find? handler.expansion).getD .empty
    .ok { g with families := g.families.insert handler.expansion (family.insert handler) }

/-- The registry without an expansion, and whether it had it. -/
def unregister (g : Registry σ) (expansion : String) : Bool × Registry σ :=
  let name := Text.foldCase expansion
  (g.families.contains name, { g with families := g.families.erase name })

def expansions (g : Registry σ) : List String :=
  g.families.keys.mergeSort fun a b => decide (a ≤ b)

/-- The handler for an identifier of an expansion, and the argument that it is called with. -/
def choose (g : Registry σ) (expansion identifier : String) :
    Option (Handler σ × Option String) :=
  match g.families.find? (Text.foldCase expansion) with
  | none => none
  | some family => family.choose identifier

def contains (g : Registry σ) (expansion identifier : String) : Bool :=
  (g.choose expansion identifier).isSome

def size (g : Registry σ) : Nat := g.families.entries.foldr (fun entry total => entry.2.size + total) 0

def isEmpty (g : Registry σ) : Bool := g.families.size == 0

def ttl (g : Registry σ) (expansion identifier : String) : Ttl :=
  match g.choose expansion identifier with
  | some (handler, _) => handler.ttl.getD g.defaultTtl
  | none => g.defaultTtl

/-- Whether an identifier is answered by a relational handler. -/
def isRelational (g : Registry σ) (expansion identifier : String) : Bool :=
  match g.choose expansion identifier with
  | some (handler, _) => handler.relational
  | none => false

end Registry
end Placeholder
