import Placeholder.Resolver.Basic
import Placeholder.Text.Utf8

/-!
# Putting answers into a text

Answers seldom have the length of the tokens they replace. The tokens are replaced from the end of
the text to its start, so the places of those still to come are not moved.
-/
namespace Placeholder

variable {σ : Type}

abbrev Answers := Table String Answer

/-- What is put over a token; none leaves the token as it is. -/
def Resolver.replacement (r : Resolver σ) (fallback : Option String) (answers : Answers)
    (token : Token) : Option String :=
  match (answers.find? token.key).bind Answer.text? with
  | some text => some text
  | none => if r.preserveUnknown then none else some (fallback.getD "")

/-- Replaces tokens one after another; none if one of them is not where it says. -/
def splice (replacement : Token → Option String) : List Token → List Char → Option (List Char)
  | [], text => some text
  | token :: rest, text =>
    match replacement token with
    | none => splice replacement rest text
    | some value =>
      match Text.replaceRange text token.start token.stop value.toList with
      | none => none
      | some text => splice replacement rest text

/-- The text with its tokens, given last one first, replaced. -/
def Resolver.render (r : Resolver σ) (fallback : Option String) (answers : Answers)
    (tokens : List Token) (text : String) : Exec (State σ) String :=
  match splice (r.replacement fallback answers) tokens text.toList with
  | some chars => return String.ofList chars
  | none => Exec.panic ⟨"a token is not where it should be"⟩

end Placeholder
