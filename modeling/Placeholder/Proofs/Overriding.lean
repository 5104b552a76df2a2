import Placeholder.Proofs.Aloofness
import Mathlib.Data.List.Induction

/-!
# Which custom resolver is in use

The custom resolvers in use are settled by what was done to them before: for each expansion, in
whatever case it was written, the last change that concerns it counts. While a resolver works on a
question, nobody but custom resolvers makes changes, and they only take others out of use. If all of
them come back at once, the changes are those of the clients.
-/
namespace Placeholder

variable {σ : Type}

/-! ## Changes -/

namespace Customs

/-- What is done to the custom resolvers. -/
inductive Change (σ : Type) where
  | register (expansion : String) (custom : Custom σ)
  | unregister (expansion : String)

namespace Change

def expansion : Change σ → String
  | register expansion _ | unregister expansion => expansion

def custom? : Change σ → Option (Custom σ)
  | register _ custom => some custom
  | unregister _ => none

def apply (customs : Customs σ) : Change σ → Customs σ
  | register expansion custom => (customs.register expansion custom).2
  | unregister expansion => (customs.unregister expansion).2

/-- The case of an expansion does not count. -/
def Concerns (change : Change σ) (expansion : String) : Prop :=
  Text.foldCase change.expansion = Text.foldCase expansion

instance (change : Change σ) (expansion : String) : Decidable (change.Concerns expansion) :=
  inferInstanceAs (Decidable (_ = _))

end Change

def after (customs : Customs σ) (changes : List (Change σ)) : Customs σ :=
  changes.foldl Change.apply customs

/-- The last change that concerns the expansion was the registration of the custom resolver. -/
def InUse (changes : List (Change σ)) (expansion : String) (custom : Custom σ) : Prop :=
  ∃ older name newer, changes = older ++ .register name custom :: newer ∧
    (Change.register name custom).Concerns expansion ∧
    ∀ change ∈ newer, ¬ change.Concerns expansion

variable {customs : Customs σ} {changes past : List (Change σ)} {change : Change σ}
  {expansion : String} {custom : Custom σ}

@[simp] theorem after_nil (customs : Customs σ) : customs.after [] = customs := rfl

theorem after_append (customs : Customs σ) (first second : List (Change σ)) :
    customs.after (first ++ second) = (customs.after first).after second :=
  List.foldl_append

theorem ofExpansion?_apply (customs : Customs σ) (change : Change σ) (expansion : String) :
    (change.apply customs).ofExpansion? expansion =
      if change.Concerns expansion then change.custom? else customs.ofExpansion? expansion := by
  cases change with
  | register name custom =>
      simp only [Change.apply, register, ofExpansion?, Table.find?_insert, Change.Concerns,
        Change.expansion, Change.custom?, eq_comm]
  | unregister name =>
      simp only [Change.apply, unregister, ofExpansion?, Table.find?_erase, Change.Concerns,
        Change.expansion, Change.custom?, eq_comm]

theorem inUse_concat_iff : InUse (past ++ [change]) expansion custom ↔
    if change.Concerns expansion then change.custom? = some custom
    else InUse past expansion custom := by
  constructor
  · intro h
    obtain ⟨older, name, newer, hsplit, hname, hspared⟩ := h
    rcases newer.eq_nil_or_concat' with rfl | ⟨middle, last, rfl⟩
    · obtain ⟨-, hlast⟩ := List.append_inj' hsplit rfl
      obtain rfl := List.singleton_inj.mp hlast
      rw [if_pos hname]
      rfl
    · have hmore : past ++ [change] = (older ++ .register name custom :: middle) ++ [last] := by
        simpa using hsplit
      obtain ⟨rfl, hlast⟩ := List.append_inj' hmore rfl
      obtain rfl := List.singleton_inj.mp hlast
      rw [if_neg (hspared _ (by simp))]
      exact ⟨older, name, middle, rfl, hname, fun c hc => hspared c (by simp [hc])⟩
  · intro h
    split_ifs at h with hconcerns
    · cases change with
      | unregister => cases h
      | register name found =>
          obtain rfl : found = custom := Option.some.inj h
          exact ⟨past, name, [], rfl, hconcerns, by simp⟩
    · obtain ⟨older, name, newer, rfl, hname, hspared⟩ := h
      refine ⟨older, name, newer ++ [change], by simp, hname, ?_⟩
      intro c hc
      rcases List.mem_append.mp hc with hc | hc
      · exact hspared c hc
      · rwa [List.mem_singleton.mp hc]

/-- For each expansion, the last change that concerns it counts. -/
theorem ofExpansion?_after_iff :
    (after .empty changes).ofExpansion? expansion = some custom ↔
      InUse changes expansion custom := by
  induction changes using List.reverseRecOn with
  | nil =>
      constructor
      · intro h
        cases h
      · intro h
        obtain ⟨older, name, newer, hsplit, -⟩ := h
        simp at hsplit
  | append_singleton past change ih =>
      rw [after_append, inUse_concat_iff]
      change (change.apply _).ofExpansion? expansion = some custom ↔ _
      rw [ofExpansion?_apply]
      split_ifs
      · exact Iff.rfl
      · exact ih

end Customs

/-! ## Changes in a run -/

/-- What a client does to the custom resolvers with a call. -/
def Call.changes : Call σ → List (Customs.Change σ)
  | register expansion custom => [.register expansion custom]
  | unregister expansion => [.unregister expansion]
  | ask _ | invalidate _ | invalidateSubject _ | clear | advance _ | setClock _ => []

/-- The work leaves in use what it does not take out of use. -/
def Exec.OnlyTakes {α : Type} (x : Exec (State σ) α) : Prop :=
  ∀ s, ∃ taken : List String,
    (x s).state.customs = s.customs.after (taken.map Customs.Change.unregister)

/-- With these custom resolvers in use, the work leaves them in use. -/
def Exec.KeepsInUse {α : Type} (customs : Customs σ) (x : Exec (State σ) α) : Prop :=
  ∀ s, s.customs = customs → (x s).state.customs = customs

namespace Exec

variable {α β : Type} {x : Exec (State σ) α} {f : α → Exec (State σ) β}

theorem OnlyTakes.of_same (h : ∀ s, (x s).state.customs = s.customs) : x.OnlyTakes :=
  fun s => ⟨[], h s⟩

theorem OnlyTakes.bind (hx : x.OnlyTakes) (hf : ∀ a, (f a).OnlyTakes) : (x >>= f).OnlyTakes := by
  intro s
  obtain ⟨first, hfirst⟩ := hx s
  rw [bind_apply]
  rcases hrun : x s with ⟨_ | a, s', events⟩
  · exact ⟨first, by rwa [hrun] at hfirst⟩
  · obtain ⟨second, hsecond⟩ := hf a s'
    rw [hrun] at hfirst
    refine ⟨first ++ second, ?_⟩
    rw [List.map_append, Customs.after_append, ← hfirst]
    exact hsecond

theorem OnlyTakes.attempt (hx : x.OnlyTakes) : (Exec.attempt x).OnlyTakes := by
  intro s
  have hs := hx s
  unfold Exec.attempt
  rcases hrun : x s with ⟨_ | a, s', events⟩ <;> rwa [hrun] at hs

variable {customs : Customs σ}

theorem KeepsInUse.bind (hx : x.KeepsInUse customs) (hf : ∀ a, (f a).KeepsInUse customs) :
    (x >>= f).KeepsInUse customs := by
  intro s hs
  have hfirst := hx s hs
  rw [bind_apply]
  rcases hrun : x s with ⟨_ | a, s', events⟩
  · rwa [hrun] at hfirst
  · rw [hrun] at hfirst
    exact hf a s' hfirst

theorem KeepsInUse.attempt (hx : x.KeepsInUse customs) :
    (Exec.attempt x).KeepsInUse customs := by
  intro s hs
  have hfirst := hx s hs
  unfold Exec.attempt
  rcases hrun : x s with ⟨_ | a, s', events⟩ <;> rwa [hrun] at hfirst

end Exec

namespace Resolver

variable {r : Resolver σ} {calls : List (Call σ)} {s : State σ}
  {changes : List (Customs.Change σ)}

/-- Custom resolvers can take others out of use and do no more to them. -/
theorem closed_onlyTakes (r : Resolver σ) : r.Closed fun x => x.OnlyTakes where
  value _ := .of_same fun _ => rfl
  panic _ := .of_same fun _ => rfl
  state := .of_same fun _ => rfl
  bind := .bind
  attempt := .attempt
  foreign _ := .of_same fun _ => rfl
  aside _ := .of_same fun _ => rfl
  unregister expansion _ := ⟨[expansion], rfl⟩
  gate _ _ := .of_same fun _ => rfl
  custom _ _ _ := .of_same fun _ => rfl
  refusal _ _ _ := .of_same fun _ => rfl
  lookup _ := .of_same fun s => r.lookup_customs _ _ s

theorem lockstep_keepsInUse (r : Resolver σ) {customs : Customs σ} (hdirect : customs.Direct) :
    r.Lockstep r fun x _ => x.KeepsInUse customs where
  said := rfl
  refuses _ := rfl
  value _ _ hs := hs
  panic _ _ hs := hs
  bind := .bind
  attempt := .attempt
  customValue _ token context s hs := by
    rw [customValue_apply (hs ▸ hdirect)]
    exact hs
  gate _ _ _ hs := hs
  custom _ _ _ _ hs := hs
  refusal _ _ _ _ hs := hs
  lookup _ s hs := (r.lookup_customs _ _ s).trans hs

/-- The changes that are made while calls are made one after another: what a client does with each
call, and what custom resolvers take out of use before the call is over. -/
inductive Changes (r : Resolver σ) :
    List (Call σ) → State σ → List (Customs.Change σ) → Prop
  | nil (s : State σ) : Changes r [] s []
  | cons {call : Call σ} {rest : List (Call σ)} {s : State σ} {later : List (Customs.Change σ)}
      (taken : List String) : (call.perform r s).state.customs =
        s.customs.after (call.changes ++ taken.map .unregister) →
      Changes r rest (call.perform r s).state later →
      Changes r (call :: rest) s (call.changes ++ taken.map .unregister ++ later)

theorem Changes.customs_eq (h : r.Changes calls s changes) :
    (r.run calls s).state.customs = s.customs.after changes := by
  induction h with
  | nil s => rfl
  | cons taken hcall _ ih =>
      rw [Customs.after_append, ← hcall]
      exact ih

/-- The custom resolvers are what changes have left, whatever foreign code does. -/
theorem exists_changes (r : Resolver σ) (calls : List (Call σ)) (s : State σ) :
    ∃ changes, r.Changes calls s changes := by
  induction calls generalizing s with
  | nil => exact ⟨[], .nil s⟩
  | cons call rest ih =>
      obtain ⟨later, hlater⟩ := ih (call.perform r s).state
      have hcall : ∃ taken : List String, (call.perform r s).state.customs =
          s.customs.after (call.changes ++ taken.map .unregister) := by
        cases call with
        | ask query => exact r.closed_onlyTakes.query query s
        | register | unregister | invalidate | invalidateSubject | clear | advance | setClock =>
            exact ⟨[], rfl⟩
      obtain ⟨taken, htaken⟩ := hcall
      exact ⟨_, .cons taken htaken hlater⟩

/-- If custom resolvers come back at once, nobody but clients makes changes. -/
theorem changes_of_direct (hs : s.customs.Direct) (hcalls : ∀ call ∈ calls, call.Direct) :
    r.Changes calls s (calls.flatMap Call.changes) := by
  induction calls generalizing s with
  | nil => exact .nil s
  | cons call rest ih =>
      obtain ⟨hcall, hrest⟩ := List.forall_mem_cons.mp hcalls
      have hperform : (call.perform r s).state.customs = s.customs.after call.changes := by
        cases call with
        | ask query => exact (r.lockstep_keepsInUse hs).query query s rfl
        | register | unregister | invalidate | invalidateSubject | clear | advance | setClock =>
            rfl
      have hnext : Customs.Direct (call.perform r s).state.customs := by
        rw [hperform]
        cases call with
        | register expansion custom => exact Customs.forall_register hs hcall expansion
        | unregister expansion => exact Customs.forall_unregister hs expansion
        | ask | invalidate | invalidateSubject | clear | advance | setClock => exact hs
      have hchanges := Changes.cons [] (by simpa using hperform) (ih hnext hrest)
      simpa using hchanges

end Resolver
end Placeholder
