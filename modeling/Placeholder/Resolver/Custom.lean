import Placeholder.Handler.Basic
import Placeholder.Table

/-!
# Custom resolvers

A custom resolver answers all identifiers of one expansion. It is foreign code that may turn back to
the resolver it serves: to have a text resolved, or to take a custom resolver out of use. Its work
is therefore a sequence of steps, each of which names what it wants and how it goes on. Nothing else
that a resolver offers, such as putting a custom resolver into use, is asked for from inside here.
-/
namespace Placeholder

/-- What foreign code with a state `σ` does next. -/
inductive Step (σ : Type) where
  | finish (outcome : Outcome) (host : σ)
  /-- It wants a text resolved and goes on with the result. -/
  | resolve (text : String) (context : Context) (host : σ) (goOn : String → σ → Step σ)
  /-- It wants a custom resolver removed and goes on knowing whether there was one. -/
  | unregister (expansion : String) (host : σ) (goOn : Bool → σ → Step σ)

abbrev Custom (σ : Type) := Context → (identifier : String) → σ → Step σ

/-- Custom resolvers by expansion. The case of an expansion does not count. -/
abbrev Customs (σ : Type) := Table String (Custom σ)

namespace Customs

variable {σ : Type}

def ofExpansion? (customs : Customs σ) (expansion : String) : Option (Custom σ) :=
  customs.find? (Text.foldCase expansion)

/-- Puts a custom resolver into use, and tells whether it replaces another. -/
def register (customs : Customs σ) (expansion : String) (custom : Custom σ) : Bool × Customs σ :=
  let name := Text.foldCase expansion
  (customs.contains name, customs.insert name custom)

/-- Takes a custom resolver out of use, and tells whether there was one. -/
def unregister (customs : Customs σ) (expansion : String) : Bool × Customs σ :=
  let name := Text.foldCase expansion
  (customs.contains name, customs.erase name)

end Customs
end Placeholder
