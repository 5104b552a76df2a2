import Placeholder.Resolver.Rendering
import Placeholder.Resolver.Settling

/-!
# Resolving a text

One pass settles the tokens of a text from the last to the first, each key once, and puts the
answers into the text. A custom resolver may start a pass of its own while it is called. Such passes
nest as deep as the resolver allows; beyond that they panic, and the panic ends where the custom
resolver was called.
-/
namespace Placeholder.Resolver

variable {σ : Type}

/-- The tokens of a text; none if there is nothing to resolve. -/
def tokens? (r : Resolver σ) (text : String) : Option (List Token) :=
  if r.delimiter.mayHaveTokens text then
    match r.delimiter.tokens text with
    | [] => none
    | tokens => some tokens
  else none

/-- Settles tokens in turn, except those whose key has an answer already. -/
def settleEach (inner : Inner σ) (r : Resolver σ) (context : Context) :
    List Token → Answers → Exec (State σ) Answers
  | [], answers => return answers
  | token :: rest, answers =>
    if answers.contains token.key then r.settleEach inner context rest answers
    else do
      let answer ← r.settle inner token context
      r.settleEach inner context rest (answers.insert token.key answer)

def pass (inner : Inner σ) (r : Resolver σ) (fallback : Option String) (text : String)
    (context : Context) : Exec (State σ) String :=
  match r.tokens? text with
  | none => return text
  | some tokens => do
    let lastFirst := tokens.reverse
    let answers ← r.settleEach inner context lastFirst .empty
    r.render fallback answers lastFirst text

/-- Passes inside one another, to a given depth. -/
def nested (r : Resolver σ) : (depth : Nat) → Inner σ
  | 0 => fun _ _ => Exec.panic ⟨"resolutions nest too deep"⟩
  | depth + 1 => fun text context => r.pass (r.nested depth) r.fallback text context

/-- How custom resolvers have a text resolved. -/
def inner (r : Resolver σ) : Inner σ := r.nested r.nestingLimit

/-- The text with its tokens resolved, and the given fallback for those without a value. -/
def resolveWithFallback (r : Resolver σ) (text : String) (context : Context)
    (fallback : Option String) : Exec (State σ) String :=
  r.pass r.inner fallback text context

def resolve (r : Resolver σ) (text : String) (context : Context) : Exec (State σ) String :=
  r.resolveWithFallback text context r.fallback

def resolveToken (r : Resolver σ) (token : Token) (context : Context) : Exec (State σ) Answer :=
  r.settle r.inner token context

/-- The answer to a placeholder that is given by itself, with or without delimiters. -/
def resolvePlaceholder (r : Resolver σ) (placeholder : String) (context : Context) :
    Exec (State σ) Answer :=
  match r.delimiter.token? placeholder with
  | some token => r.resolveToken token context
  | none => return .empty

end Placeholder.Resolver
