/-!
# Answers

What one placeholder came to: a value made for the occasion, a value that had been kept, or nothing.
-/
namespace Placeholder

inductive Answer where
  | value (text : String)
  | cached (text : String)
  | empty
  deriving DecidableEq, Repr

namespace Answer

def text? : Answer → Option String
  | value text => some text
  | cached text => some text
  | empty => none

def isEmpty : Answer → Bool
  | empty => true
  | _ => false

def isPresent (a : Answer) : Bool := !a.isEmpty

def isCached : Answer → Bool
  | cached _ => true
  | _ => false

def ofOption : Option String → Answer
  | some text => value text
  | none => empty

end Answer
end Placeholder
