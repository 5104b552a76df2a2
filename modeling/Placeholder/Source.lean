import Placeholder.Registry.Answering

/-!
# Sources of values

What a resolver takes its values from, seen from the resolver: an answer to each identifier, how
long the answer may be kept, and which identifiers are about a viewer and a target. A registry is
one source; a source that knows nothing of relations leaves the last part out.
-/
namespace Placeholder

/-- Where a resolver takes its values from. -/
structure Source (σ : Type) where
  answer : (expansion identifier : String) → Context → Exec σ Answer
  ttl : (expansion identifier : String) → Ttl
  isRelational : (expansion identifier : String) → Bool := fun _ _ => false

def Registry.toSource {σ : Type} (g : Registry σ) : Source σ where
  answer := g.answer
  ttl := g.ttl
  isRelational := g.isRelational

end Placeholder
