import Placeholder.Resolver.Pass

/-!
# Resolving a text by tasks

The tokens of a text can be settled as tasks of their own, one per key, which run in any order. Each
task takes the last token of its key, as a pass does. A task that panics leaves its key without an
answer and disturbs no other.
-/
namespace Placeholder.Resolver

variable {σ : Type}

/-- The first token of each key, in the order of the list. -/
def onePerKey : List Token → List Token
  | [] => []
  | token :: rest => token :: (onePerKey rest).filter fun other => other.key != token.key

/-- Runs tasks in the given order and gathers the answers of those that end well. -/
def runTasks (inner : Inner σ) (r : Resolver σ) (context : Context) :
    List Token → Answers → Exec (State σ) Answers
  | [], answers => return answers
  | token :: rest, answers => do
    match ← Exec.attempt (r.settle inner token context) with
    | some answer => r.runTasks inner context rest (answers.insert token.key answer)
    | none => r.runTasks inner context rest answers

/-- The text with its tokens resolved by tasks; `order` says in which order they run. -/
def resolveInOrder (order : List Token → List Token) (r : Resolver σ) (text : String)
    (context : Context) : Exec (State σ) String :=
  match r.tokens? text with
  | none => return text
  | some tokens => do
    let lastFirst := tokens.reverse
    let answers ← r.runTasks r.inner context (order (onePerKey lastFirst)) .empty
    r.render r.fallback answers lastFirst text

/-- The text with its tokens resolved by tasks that run in the order in which they are started. -/
def resolveByTasks (r : Resolver σ) (text : String) (context : Context) : Exec (State σ) String :=
  r.resolveInOrder id text context

end Placeholder.Resolver
