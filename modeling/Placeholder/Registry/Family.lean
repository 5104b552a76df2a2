import Placeholder.Handler.Basic
import Placeholder.Table

/-!
# The handlers of one expansion

A family has at most one handler per pattern. For an identifier it chooses the handler of exactly
this identifier, else the one of the longest front that the identifier begins with, else the one for
anything.
-/
namespace Placeholder

structure Family (σ : Type) where
  exact : Table String (Handler σ)
  /-- Longest front first. -/
  leading : List (String × Handler σ)
  any : Option (Handler σ)

namespace Family

variable {σ : Type}

def empty : Family σ := ⟨.empty, [], none⟩

def eraseLeading (front : String) (handlers : List (String × Handler σ)) :
    List (String × Handler σ) :=
  handlers.filter fun entry => !decide (entry.1 = front)

/-- Puts a handler behind those of fronts at least as long as its own. -/
def insertLeading (front : String) (handler : Handler σ) :
    List (String × Handler σ) → List (String × Handler σ)
  | [] => [(front, handler)]
  | entry :: rest =>
    if front.utf8ByteSize ≤ entry.1.utf8ByteSize then entry :: insertLeading front handler rest
    else (front, handler) :: entry :: rest

/-- The family with a handler, in place of any other of the same pattern. -/
def insert (family : Family σ) (handler : Handler σ) : Family σ :=
  match handler.pattern with
  | .exact identifier => { family with exact := family.exact.insert identifier handler }
  | .leading front =>
    { family with leading := insertLeading front handler (eraseLeading front family.leading) }
  | .any => { family with any := some handler }

def beyond? (front text : String) : Option String :=
  if front.toList.isPrefixOf text.toList then
    some (String.ofList (text.toList.drop front.toList.length))
  else none

/-- The first handler of the list whose front the identifier begins with, and what is beyond. -/
def chooseLeading (identifier : String) : List (String × Handler σ) → Option (Handler σ × String)
  | [] => none
  | (front, handler) :: rest =>
    match beyond? front identifier with
    | some argument => some (handler, argument)
    | none => chooseLeading identifier rest

/-- The handler for an identifier, and the argument that it is called with. -/
def choose (family : Family σ) (identifier : String) : Option (Handler σ × Option String) :=
  match family.exact.find? identifier with
  | some handler => some (handler, none)
  | none =>
    match chooseLeading identifier family.leading with
    | some (handler, argument) => some (handler, some argument)
    | none => family.any.map fun handler => (handler, none)

def size (family : Family σ) : Nat :=
  family.exact.size + family.leading.length + (if family.any.isSome then 1 else 0)

end Family
end Placeholder
