import Placeholder.Error
import Placeholder.Subject
import Placeholder.Table
import Placeholder.Json.Decoding

/-!
# Contexts

A context is what placeholders are resolved against: who they are resolved for, whether that subject
is online, whom it looks at, and data on the side. A context is relational if it has a target; the
primary subject is the viewer then. There is no target and nobody online without a primary subject,
so every relational context has both its subjects.
-/
namespace Placeholder

/-- Whom a text is resolved for, and what else is known. -/
structure Context where
  primary : Option Subject
  online : Bool
  secondary : Option Subject
  data : Table String Json
  /-- Only a subject can be online. -/
  primary_of_online : online = true → primary.isSome = true
  /-- Only a subject can look at another. -/
  primary_of_secondary : secondary.isSome = true → primary.isSome = true

namespace Context

def empty : Context where
  primary := none
  online := false
  secondary := none
  data := .empty
  primary_of_online := by simp
  primary_of_secondary := by simp

def ofSubject (subject : Subject) : Context where
  primary := some subject
  online := true
  secondary := none
  data := .empty
  primary_of_online := by simp
  primary_of_secondary := by simp

def ofOffline (subject : Subject) : Context where
  primary := some subject
  online := false
  secondary := none
  data := .empty
  primary_of_online := by simp
  primary_of_secondary := by simp

def ofRelation (viewer target : Subject) : Context where
  primary := some viewer
  online := true
  secondary := some target
  data := .empty
  primary_of_online := by simp
  primary_of_secondary := by simp

/-- The context with one more piece of data, over any of the same key. -/
def withData (c : Context) (key : String) (value : Json) : Context :=
  { c with data := c.data.insert key value }

/-- The context looking at a target; it needs somebody who looks. -/
def withTarget (c : Context) (target : Subject) : Except Error Context :=
  if h : c.primary.isSome = true then
    .ok { c with secondary := some target, primary_of_secondary := fun _ => h }
  else .error .targetWithoutPrimary

def withoutTarget (c : Context) : Context :=
  { c with secondary := none, primary_of_secondary := by simp }

def isRelational (c : Context) : Bool := c.secondary.isSome

def relation (c : Context) : Option (Subject × Subject) :=
  match c.primary, c.secondary with
  | some viewer, some target => some (viewer, target)
  | _, _ => none

def data? (c : Context) (key : String) : Option Json := c.data.find? key

def text? (c : Context) (key : String) : Option String := (c.data? key).bind Json.string?

/-- The data under a key as a type, if there is any; it fails on data of another type. -/
def dataAs {α : Type} (c : Context) (view : Json → Option α) (key : String) :
    Except Error (Option α) :=
  match c.data? key with
  | none => .ok none
  | some json => (Json.decode view json).map some

def same (a b : Context) : Bool :=
  a.primary == b.primary && a.online == b.online && a.secondary == b.secondary &&
    a.data.same Json.same b.data

end Context
end Placeholder
