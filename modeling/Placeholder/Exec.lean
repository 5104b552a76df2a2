import Placeholder.Event

/-!
# Running foreign code

Work on a state that may call foreign code. It ends with a value or is cut short by a panic; either
way the state it leaves and the events it reported count. Work is put together in sequence; a panic
skips the rest, up to a place where it is caught.
-/
namespace Placeholder

/-- Foreign code broke down where nobody expects it to. -/
structure Panic where
  message : String
  deriving DecidableEq, Repr

structure Report (S α : Type) where
  result : Except Panic α
  state : S
  events : List Event

/-- The report with earlier events before its own. -/
def Report.after {S α : Type} (r : Report S α) (earlier : List Event) : Report S α :=
  { r with events := earlier ++ r.events }

/-- Work on a state. -/
def Exec (S α : Type) : Type := S → Report S α

namespace Exec

variable {S α β : Type}

def value (a : α) : Exec S α := fun s => ⟨.ok a, s, []⟩

/-- One work and then another that depends on its value. -/
def next (x : Exec S α) (f : α → Exec S β) : Exec S β := fun s =>
  match x s with
  | ⟨.ok a, s', events⟩ => (f a s').after events
  | ⟨.error p, s', events⟩ => ⟨.error p, s', events⟩

instance : Monad (Exec S) where
  pure := value
  bind := next

def state : Exec S S := fun s => ⟨.ok s, s, []⟩

def change (f : S → S) : Exec S Unit := fun s => ⟨.ok (), f s, []⟩

def update (f : S → α × S) : Exec S α := fun s => ⟨.ok (f s).1, (f s).2, []⟩

def report (event : Event) : Exec S Unit := fun s => ⟨.ok (), s, [event]⟩

def panic (p : Panic) : Exec S α := fun s => ⟨.error p, s, []⟩

/-- Catches a panic. What was done before it stays done. -/
def attempt (x : Exec S α) : Exec S (Option α) := fun s =>
  match x s with
  | ⟨.ok a, s', events⟩ => ⟨.ok (some a), s', events⟩
  | ⟨.error _, s', events⟩ => ⟨.ok none, s', events⟩

@[simp] theorem pure_apply (a : α) (s : S) : (pure a : Exec S α) s = ⟨.ok a, s, []⟩ := rfl

theorem bind_apply (x : Exec S α) (f : α → Exec S β) (s : S) :
    (x >>= f) s = match x s with
      | ⟨.ok a, s', events⟩ => (f a s').after events
      | ⟨.error p, s', events⟩ => ⟨.error p, s', events⟩ := rfl

@[simp] theorem state_apply (s : S) : (state : Exec S S) s = ⟨.ok s, s, []⟩ := rfl

@[simp] theorem change_apply (f : S → S) (s : S) : change f s = ⟨.ok (), f s, []⟩ := rfl

@[simp] theorem update_apply (f : S → α × S) (s : S) :
    update f s = ⟨.ok (f s).1, (f s).2, []⟩ := rfl

@[simp] theorem report_apply (event : Event) (s : S) : report event s = ⟨.ok (), s, [event]⟩ := rfl

@[simp] theorem panic_apply (p : Panic) (s : S) :
    (panic p : Exec S α) s = ⟨.error p, s, []⟩ := rfl

end Exec

@[simp] theorem Report.after_nil {S α : Type} (r : Report S α) : r.after [] = r := rfl

end Placeholder
