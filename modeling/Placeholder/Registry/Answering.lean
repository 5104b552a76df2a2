import Placeholder.Exec
import Placeholder.Registry.Basic

/-!
# Answers of a registry

The chosen handler runs only if what is said about it admits the context: a subject that is online,
a viewer and a target, places that are near enough. What is missing counts against it. A handler
that fails or panics is reported and answers nothing; a locator that panics is not caught here.
-/
namespace Placeholder

variable {σ : Type}

def Locator.ask (locator : Locator σ) (whom : Subject) : Exec σ (Option Location) := do
  match ← Exec.update (locator whom) with
  | .found place => return some place
  | .unknown => return none
  | .panic message => Exec.panic ⟨message⟩

/-- Whether viewer and target are where the handler wants them. -/
def Handler.allowsPlaces (h : Handler σ) (viewer target : Location) : Bool :=
  (!h.sameWorld || viewer.world == target.world) &&
    match h.maxDistance with
    | none => true
    | some limit =>
      match viewer.distance? target with
      | some distance => decide (distance ≤ limit)
      | none => false

def Handler.call (h : Handler σ) (request : Request) : Exec σ Answer := do
  Exec.report (.handlerCalled request)
  match ← Exec.update (h.run request) with
  | .value text => return .value text
  | .decline => return .empty
  | .failure _ | .panic _ =>
    Exec.report (.failed request.expansion)
    return .empty

namespace Registry

/-- Whether a handler may run for a context. Both subjects are looked for, the viewer first. -/
def admits (g : Registry σ) (h : Handler σ) (context : Context) : Exec σ Bool :=
  if h.requiresOnline && !context.online then return false
  else if !h.relational then return true
  else
    match context.relation with
    | none => return false
    | some (viewer, target) =>
      if h.isUnconstrained then return true
      else
        match g.locator with
        | none => return false
        | some locator => do
          let viewerPlace ← locator.ask viewer
          let targetPlace ← locator.ask target
          match viewerPlace, targetPlace with
          | some a, some b => return h.allowsPlaces a b
          | _, _ => return false

/-- The answer to an identifier of an expansion. -/
def answer (g : Registry σ) (expansion identifier : String) (context : Context) :
    Exec σ Answer :=
  match g.choose expansion identifier with
  | none => return .empty
  | some (handler, argument) => do
    if ← g.admits handler context then
      handler.call ⟨handler.expansion, identifier, argument, context⟩
    else return .empty

end Registry
end Placeholder
