import Placeholder.Resolver.Basic

/-!
# Settling one token

The answer to a single token is looked for in a fixed order. A relational token needs a context with
a target. A custom resolver comes before everything else, and its values are never kept. A plain
token gets nothing from a relational handler, since a value about two subjects must not be kept for
one. Then the cache is asked, and last the source, whose values the cache keeps.

Custom resolvers may have texts resolved. How that is done is a parameter `inner` here, so that
everything about a single token can be said without it.
-/
namespace Placeholder

variable {σ : Type}

/-- How a text is resolved for a custom resolver. -/
abbrev Inner (σ : Type) := String → Context → Exec (State σ) String

def Step.perform (inner : Inner σ) : Step σ → Exec (State σ) Outcome
  | .finish outcome host => do
    Exec.change fun s => { s with host }
    return outcome
  | .resolve text context host goOn => do
    Exec.change fun s => { s with host }
    let resolved ← inner text context
    let s ← Exec.state
    (goOn resolved s.host).perform inner
  | .unregister expansion host goOn => do
    Exec.change fun s => { s with host }
    let existed ← Exec.update fun s => s.unregisterCustom expansion
    let s ← Exec.state
    (goOn existed s.host).perform inner

/-- Reports how a token was settled. -/
def settled (token : Token) (context : Context) (origin : Origin) (answer : Answer) :
    Exec (State σ) Answer := do
  Exec.report (.settled token context origin answer)
  return answer

namespace Resolver

/-- The value of a custom resolver, if there is one and it has one. Failing and panicking are
reported and count as having none. -/
def customValue (inner : Inner σ) (token : Token) (context : Context) :
    Exec (State σ) (Option String) := do
  let s ← Exec.state
  match s.customs.ofExpansion? token.expansion with
  | none => return none
  | some custom =>
    Exec.report (.customCalled token.expansion token.identifier context)
    match ← Exec.attempt ((custom context token.identifier s.host).perform inner) with
    | some (.value text) => return some text
    | some .decline => return none
    | some (.failure _) | some (.panic _) | none =>
      Exec.report (.failed token.expansion)
      return none

/-- Whether a token asks plainly for what only a viewer and a target can be told. -/
def refuses (r : Resolver σ) (token : Token) : Bool :=
  !token.relational &&
    match r.source with
    | some source => source.isRelational token.expansion token.identifier
    | none => false

/-- The answer of the source. A fresh value is kept. -/
def produce (r : Resolver σ) (token : Token) (context : Context) : Exec (State σ) Answer :=
  match r.source with
  | none => settled token context .nothing .empty
  | some source => do
    match ← State.onHost (source.answer token.expansion token.identifier context) with
    | .value text =>
      let ttl := source.ttl token.expansion token.identifier
      Exec.change fun s => s.keep (Key.ofToken token context) text ttl
      settled token context .registry (.value text)
    | .cached text => settled token context .registry (.cached text)
    | .empty => settled token context .nothing .empty

/-- The answer of the cache, else of the source. -/
def lookup (r : Resolver σ) (token : Token) (context : Context) : Exec (State σ) Answer := do
  let s ← Exec.state
  if s.cache.isNone then r.produce token context
  else
    match ← Exec.update fun s => s.fetch (Key.ofToken token context) with
    | some text =>
      Exec.report .hit
      settled token context .cache (.cached text)
    | none =>
      Exec.report .miss
      r.produce token context

def settle (inner : Inner σ) (r : Resolver σ) (token : Token) (context : Context) :
    Exec (State σ) Answer := do
  if token.relational && !context.isRelational then settled token context .gate .empty
  else
    match ← customValue inner token context with
    | some text => settled token context .custom (.value text)
    | none =>
      if r.refuses token then settled token context .refusal .empty
      else r.lookup token context

end Resolver
end Placeholder
