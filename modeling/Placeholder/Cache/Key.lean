import Placeholder.Context.Basic
import Placeholder.Token.Basic

/-!
# Keys of kept values

A value is kept for whom it was made: for a viewer and a target, for one subject, or for all. The
three kinds of keys never meet, whatever the word in them is.
-/
namespace Placeholder

/-- For whom a value was made, and the key of the token that asked for it. -/
inductive Key where
  | global (word : String)
  | subject (whom : Subject) (word : String)
  | relational (viewer target : Subject) (word : String)
  deriving DecidableEq, Repr

namespace Key

/-- The key under which the answer to a token is kept. Only a relational token in a relational
context is kept for two subjects. -/
def ofToken (token : Token) (context : Context) : Key :=
  match token.relational, context.relation with
  | true, some (viewer, target) => relational viewer target token.key
  | _, _ =>
    match context.primary with
    | some whom => subject whom token.key
    | none => global token.key

def word : Key → String
  | global word => word
  | subject _ word => word
  | relational _ _ word => word

/-- Whether the value under the key was made for a subject, as viewer or target too. -/
def mentions (key : Key) (whom : Subject) : Bool :=
  match key with
  | global _ => false
  | subject s _ => s == whom
  | relational viewer target _ => viewer == whom || target == whom

end Key
end Placeholder
