import Placeholder.Context.Basic

/-!
# Drafts of contexts

A draft gathers the parts of a context in any order and is checked once, when it is finished. A
subject counts as online unless the draft says otherwise.
-/
namespace Placeholder

/-- The parts of a context that is not finished. -/
structure Context.Draft where
  primary : Option Subject
  /-- None when the draft does not say. -/
  online : Option Bool
  secondary : Option Subject
  data : Table String Json

namespace Context.Draft

def empty : Draft := ⟨none, none, none, .empty⟩

def withSubject (d : Draft) (subject : Subject) : Draft := { d with primary := some subject }

def withOnline (d : Draft) (online : Bool) : Draft := { d with online := some online }

def withTarget (d : Draft) (target : Subject) : Draft := { d with secondary := some target }

def withData (d : Draft) (key : String) (value : Json) : Draft :=
  { d with data := d.data.insert key value }

/-- The context of a draft. A target or an online mark without a subject is refused, the target
first. -/
def build (d : Draft) : Except Error Context :=
  match d.primary with
  | some subject => .ok {
      primary := some subject
      online := d.online.getD true
      secondary := d.secondary
      data := d.data
      primary_of_online := by simp
      primary_of_secondary := by simp }
  | none =>
    if d.secondary.isSome then .error .targetWithoutPrimary
    else if d.online = some true then .error .onlineWithoutPrimary
    else .ok { Context.empty with data := d.data }

end Context.Draft
end Placeholder
