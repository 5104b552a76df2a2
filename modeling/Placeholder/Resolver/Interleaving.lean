import Placeholder.Resolver.Tasks

/-!
# Tasks side by side

The tasks of a text need not run one after another: each goes through a few stages, and between two
of them others may have their turn. A stage ends where a task has used what all tasks share, which
is a custom resolver, the cache, or the source.
-/
namespace Placeholder

variable {σ : Type}

/-- How far a task has come. -/
inductive Stage where
  | waiting
  /-- Neither the gate nor a custom resolver nor the refusal has settled the token. -/
  | atCache
  /-- The cache was asked in vain, or there is none. -/
  | atSource
  /-- The source has made a text, which is not kept yet. -/
  | made (text : String) (ttl : Ttl)
  | ended (answer : Answer)
  /-- The task has panicked. -/
  | lost
  deriving DecidableEq, Repr

namespace Stage

/-- One turn of a task. -/
def advance (inner : Inner σ) (r : Resolver σ) (token : Token) (context : Context) :
    Stage → Exec (State σ) Stage
  | waiting => do
    if token.relational && !context.isRelational then
      return ended (← settled token context .gate .empty)
    else
      match ← Resolver.customValue inner token context with
      | some text => return ended (← settled token context .custom (.value text))
      | none =>
        if r.refuses token then return ended (← settled token context .refusal .empty)
        else return atCache
  | atCache => do
    let s ← Exec.state
    if s.cache.isNone then return atSource
    else
      match ← Exec.update fun s => s.fetch (Key.ofToken token context) with
      | some text =>
        Exec.report .hit
        return ended (← settled token context .cache (.cached text))
      | none =>
        Exec.report .miss
        return atSource
  | atSource =>
    match r.source with
    | none => return ended (← settled token context .nothing .empty)
    | some source => do
      match ← State.onHost (source.answer token.expansion token.identifier context) with
      | .value text => return made text (source.ttl token.expansion token.identifier)
      | .cached text => return ended (← settled token context .registry (.cached text))
      | .empty => return ended (← settled token context .nothing .empty)
  | made text ttl => do
    Exec.change fun s => s.keep (Key.ofToken token context) text ttl
    return ended (← settled token context .registry (.value text))
  | ended answer => return ended answer
  | lost => return lost

/-- All turns that a task still has, in one go. -/
def complete (inner : Inner σ) (r : Resolver σ) (token : Token) (context : Context) :
    Stage → Exec (State σ) Answer
  | waiting => r.settle inner token context
  | atCache => r.lookup token context
  | atSource => r.produce token context
  | made text ttl => do
    Exec.change fun s => s.keep (Key.ofToken token context) text ttl
    settled token context .registry (.value text)
  | ended answer => return answer
  | lost => Exec.panic ⟨"the task has panicked"⟩

end Stage

/-- A token that is settled by a task of its own. -/
structure Task where
  token : Token
  stage : Stage := .waiting
  deriving DecidableEq, Repr

namespace Resolver

/-- Gives tasks their turns; the numbers say which of the tasks comes next. -/
def takeTurns (inner : Inner σ) (r : Resolver σ) (context : Context) :
    List Nat → List Task → Exec (State σ) (List Task)
  | [], tasks => return tasks
  | i :: rest, tasks =>
    match tasks[i]? with
    | none => r.takeTurns inner context rest tasks
    | some task => do
      let next ← Exec.attempt (task.stage.advance inner r task.token context)
      r.takeTurns inner context rest (tasks.set i { task with stage := next.getD .lost })

/-- Lets tasks come to their ends, and gathers the answers of those that end well. -/
def finishTasks (inner : Inner σ) (r : Resolver σ) (context : Context) :
    List Task → Answers → Exec (State σ) Answers
  | [], answers => return answers
  | task :: rest, answers => do
    match ← Exec.attempt (task.stage.complete inner r task.token context) with
    | some answer => r.finishTasks inner context rest (answers.insert task.token.key answer)
    | none => r.finishTasks inner context rest answers

/-- The text with its tokens resolved by tasks that have the given turns before the rest of their
work is done. -/
def resolveInTurns (turns : List Nat) (r : Resolver σ) (text : String) (context : Context) :
    Exec (State σ) String :=
  match r.tokens? text with
  | none => return text
  | some tokens => do
    let lastFirst := tokens.reverse
    let started := (onePerKey lastFirst).map fun token => { token : Task }
    let tasks ← r.takeTurns r.inner context turns started
    let answers ← r.finishTasks r.inner context tasks .empty
    r.render r.fallback answers lastFirst text

end Resolver
end Placeholder
