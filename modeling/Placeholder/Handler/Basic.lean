import Placeholder.Context.Basic
import Placeholder.Time.Ttl
import Placeholder.Token.Body

/-!
# Handlers

A handler answers some of the identifiers of one expansion. What it does is foreign code: it is
given a request and a state `σ` of its own, and comes back with an outcome and the state it leaves.
What is said about it beforehand — its pattern, its time to live, whom it is for — is all that this
library decides by.
-/
namespace Placeholder

structure Request where
  expansion : String
  identifier : String
  /-- What the identifier has beyond the front that the handler was chosen for. -/
  argument : Option String
  context : Context

/-- What foreign code comes back with. -/
inductive Outcome where
  | value (text : String)
  /-- It has nothing to say, which is no failure. -/
  | decline
  | failure (reason : Error)
  | panic (message : String)

/-- Which identifiers a handler answers. -/
inductive Pattern where
  | exact (identifier : String)
  /-- All that begin so. -/
  | leading (front : String)
  | any
  deriving DecidableEq, Repr

/-- Whether the text that a pattern compares with is missing. -/
def Pattern.isEmpty : Pattern → Bool
  | .exact identifier => identifier.isEmpty
  | .leading front => front.isEmpty
  | .any => false

/-- A handler and what is said about it. -/
structure Handler (σ : Type) where
  expansion : String
  pattern : Pattern
  /-- How long its values may be kept; none leaves that to the registry. -/
  ttl : Option Ttl := none
  /-- It answers about a viewer and a target. -/
  relational : Bool := false
  requiresOnline : Bool := false
  /-- Viewer and target have to be in one world. -/
  sameWorld : Bool := false
  /-- Viewer and target have to be this near. -/
  maxDistance : Option Float := none
  /-- It does not turn back to a resolver: a registry is there before any resolver that uses it. -/
  run : Request → σ → Outcome × σ

namespace Handler

variable {σ : Type}

/-- A handler that only its pattern is known of. The case of the expansion does not count. -/
def ofPattern (expansion : String) (pattern : Pattern) (run : Request → σ → Outcome × σ) :
    Handler σ :=
  { expansion := Text.foldCase expansion, pattern, run }

def withTtl (h : Handler σ) (ttl : Ttl) : Handler σ := { h with ttl := some ttl }

def forRelation (h : Handler σ) : Handler σ := { h with relational := true }

def forOnline (h : Handler σ) : Handler σ := { h with requiresOnline := true }

def inSameWorld (h : Handler σ) : Handler σ := { h with relational := true, sameWorld := true }

def within (h : Handler σ) (distance : Float) : Handler σ :=
  { h with relational := true, maxDistance := some distance }

/-- Whether it does not matter where viewer and target are. -/
def isUnconstrained (h : Handler σ) : Bool := !h.sameWorld && h.maxDistance.isNone

/-- A handler is refused if its expansion is no name or its pattern is empty. -/
def check (h : Handler σ) : Except Error Unit :=
  if h.expansion.isEmpty || !h.expansion.toList.all isNameChar then
    .error (.invalidName h.expansion)
  else if h.pattern.isEmpty then .error (.emptyPattern h.expansion)
  else .ok ()

end Handler
end Placeholder
