import Mathlib.Algebra.GroupWithZero.Nat
import Placeholder.Proofs.Interleavings

/-!
# Work told with its visits

A visit is a call of foreign code together with what the foreign code came back with; declining
leaves no other trace. The work of tasks is told step by step here: `Advances` lists the turns of
one task, with the visits that are made and the events that are reported, and `Works` puts turns of
several tasks one after another, whichever comes next. A pass, tasks in some order and tasks side by
side are all told so, and what holds of every turn therefore holds of all of them.
-/
namespace Placeholder

variable {σ : Type}

/-! ## Visits -/

/-- A call of foreign code for a token, and what it came back with. -/
inductive Visit where
  | custom (token : Token) (context : Context) (outcome : Outcome)
  | handler (token : Token) (context : Context) (expansion : String) (argument : Option String)
    (outcome : Outcome)

namespace Visit

def token : Visit → Token
  | custom token _ _ => token
  | handler token _ _ _ _ => token

def outcome : Visit → Outcome
  | custom _ _ outcome => outcome
  | handler _ _ _ _ outcome => outcome

def isCustom : Visit → Bool
  | custom _ _ _ => true
  | handler _ _ _ _ _ => false

/-- The expansion whose foreign code was called. -/
def expansion : Visit → String
  | custom token _ _ => token.expansion
  | handler _ _ expansion _ _ => expansion

/-- The visit came to a value. -/
def hasValue (v : Visit) : Bool := v.outcome.value?.isSome

/-- What is reported when foreign code is called. -/
def call : Visit → Event
  | custom token context _ => .customCalled token.expansion token.identifier context
  | handler token context expansion argument _ =>
    .handlerCalled ⟨expansion, token.identifier, argument, context⟩

/-- All that is reported of a visit. -/
def events (v : Visit) : List Event := v.call :: v.outcome.faults v.expansion

end Visit

/-- All that is reported of some visits. -/
def told (visits : List Visit) : List Event := visits.flatMap Visit.events

@[simp] theorem told_nil : told [] = [] := rfl

@[simp] theorem told_cons (v : Visit) (visits : List Visit) :
    told (v :: visits) = v.events ++ told visits := rfl

def Event.isCall : Event → Bool
  | handlerCalled _ | customCalled _ _ _ => true
  | _ => false

/-- The calls of foreign code among some events. -/
def foreignCalls (events : List Event) : List Event := events.filter Event.isCall

@[simp] theorem foreignCalls_append (first second : List Event) :
    foreignCalls (first ++ second) = foreignCalls first ++ foreignCalls second :=
  List.filter_append ..

@[simp] theorem Visit.foreignCalls_events (v : Visit) : foreignCalls v.events = [v.call] := by
  rcases v with ⟨_, _, outcome⟩ | ⟨_, _, _, _, outcome⟩ <;> cases outcome <;> rfl

@[simp] theorem foreignCalls_told (visits : List Visit) :
    foreignCalls (told visits) = visits.map Visit.call := by
  induction visits with
  | nil => rfl
  | cons v visits ih => rw [told_cons, foreignCalls_append, ih, Visit.foreignCalls_events]; rfl

@[simp] theorem settlements_nil : settlements [] = [] := rfl

@[simp] theorem settlements_settled (token : Token) (context : Context) (origin : Origin)
    (answer : Answer) (events : List Event) :
    settlements (.settled token context origin answer :: events) =
      ⟨token, context, origin, answer⟩ :: settlements events := rfl

@[simp] theorem settlements_told (visits : List Visit) : settlements (told visits) = [] := by
  induction visits with
  | nil => rfl
  | cons v visits ih =>
      rw [told_cons, settlements_append, ih, List.append_nil]
      rcases v with ⟨_, _, outcome⟩ | ⟨_, _, _, _, outcome⟩ <;> cases outcome <;> rfl

/-! ## Questions to foreign code -/

/-- The visit to the custom resolver of a token, if there is one that comes back at once. -/
def State.visits (s : State σ) (token : Token) (context : Context) : List Visit :=
  match s.customs.ofExpansion? token.expansion with
  | none => []
  | some custom =>
    match custom context token.identifier s.host with
    | .finish outcome _ => [.custom token context outcome]
    | _ => []

theorem State.visits_cases (s : State σ) (token : Token) (context : Context) :
    s.visits token context = [] ∧ s.consult token context = ⟨none, s.host, []⟩ ∨
      ∃ outcome host, s.visits token context = [.custom token context outcome] ∧
        s.consult token context =
          ⟨outcome.value?, host, (Visit.custom token context outcome).events⟩ := by
  unfold consult visits
  cases s.customs.ofExpansion? token.expansion with
  | none => exact .inl ⟨rfl, rfl⟩
  | some custom =>
      dsimp only
      cases custom context token.identifier s.host with
      | finish outcome host => exact .inr ⟨outcome, host, rfl, rfl⟩
      | resolve | unregister => exact .inl ⟨rfl, rfl⟩

theorem State.consult_events (s : State σ) (token : Token) (context : Context) :
    (s.consult token context).events = told (s.visits token context) := by
  rcases s.visits_cases token context with ⟨hvisits, hconsult⟩ | ⟨_, _, hvisits, hconsult⟩
  all_goals
    rw [hvisits, hconsult]
    simp

/-- All ways in which a registry that is asked for a token comes to a text or to none. -/
inductive Registry.Asked (g : Registry σ) (token : Token) (context : Context) (host : σ) :
    List Visit → Option String → σ → Prop
  | unknown : g.choose token.expansion token.identifier = none →
      Asked g token context host [] none host
  | unwelcome {h : Handler σ} {argument : Option String} {host' : σ} :
      g.choose token.expansion token.identifier = some (h, argument) →
      g.admits h context host = ⟨.ok false, host', []⟩ → Asked g token context host [] none host'
  | called {h : Handler σ} {argument : Option String} {outcome : Outcome} {host' host'' : σ} :
      g.choose token.expansion token.identifier = some (h, argument) →
      g.admits h context host = ⟨.ok true, host', []⟩ →
      h.run ⟨h.expansion, token.identifier, argument, context⟩ host' = (outcome, host'') →
      Asked g token context host [.handler token context h.expansion argument outcome]
        outcome.value? host''

theorem Registry.Asked.visits_cases {g : Registry σ} {token : Token} {context : Context}
    {host host' : σ} {visits : List Visit} {text? : Option String}
    (h : g.Asked token context host visits text? host') :
    visits = [] ∧ text? = none ∨ ∃ expansion argument outcome,
      visits = [.handler token context expansion argument outcome] ∧ text? = outcome.value? := by
  cases h with
  | unknown | unwelcome => exact .inl ⟨rfl, rfl⟩
  | called => exact .inr ⟨_, _, _, rfl, rfl⟩

theorem Registry.answer_asked {g : Registry σ} (hg : g.Calm) (token : Token) (context : Context)
    (host : σ) :
    ∃ visits text? host',
      g.answer token.expansion token.identifier context host =
        ⟨.ok (Answer.ofOption text?), host', told visits⟩ ∧
      g.Asked token context host visits text? host' := by
  unfold answer
  cases hchoose : g.choose token.expansion token.identifier with
  | none => exact ⟨[], none, host, rfl, .unknown hchoose⟩
  | some chosen =>
      obtain ⟨h, argument⟩ := chosen
      obtain ⟨admitted, host', hadmits⟩ := admits_apply hg h context host
      simp only [Exec.bind_apply, hadmits, Report.after_nil]
      cases admitted with
      | false => exact ⟨[], none, host', rfl, .unwelcome hchoose hadmits⟩
      | true =>
          refine ⟨_, _, _, ?_, .called hchoose hadmits (Prod.mk.eta).symm⟩
          simp [Handler.call_apply, Visit.events, Visit.call, Visit.outcome, Visit.expansion]

/-- A resolver whose source, if it has one, is a registry with a locator that never breaks down. -/
def Resolver.Calm (r : Resolver σ) : Prop :=
  ∀ source, r.source = some source → ∃ g : Registry σ, source = g.toSource ∧ g.Calm

theorem Resolver.Calm.returns {r : Resolver σ} (h : r.Calm) : r.Returns := by
  intro source hsource
  obtain ⟨g, rfl, hg⟩ := h source hsource
  exact hg.returns

namespace Stage

/-! ## Turns -/

/-- All turns of a task that has not ended, with the visits that are made, what is reported, and the
stage and the state that are left. -/
inductive Advances (r : Resolver σ) (token : Token) (context : Context) :
    Stage → State σ → List Visit → List Event → Stage → State σ → Prop
  | gate {s : State σ} : ¬ Passes token context →
      Advances r token context waiting s [] [.settled token context .gate .empty] (ended .empty) s
  | custom {s : State σ} {text : String} : Passes token context →
      (s.consult token context).value? = some text →
      Advances r token context waiting s (s.visits token context)
        (told (s.visits token context) ++ [.settled token context .custom (.value text)])
        (ended (.value text)) (s.consulted token context)
  | refusal {s : State σ} : Passes token context → (s.consult token context).value? = none →
      r.refuses token = true →
      Advances r token context waiting s (s.visits token context)
        (told (s.visits token context) ++ [.settled token context .refusal .empty])
        (ended .empty) (s.consulted token context)
  | onward {s : State σ} : r.Reaches token context s →
      Advances r token context waiting s (s.visits token context)
        (told (s.visits token context)) atCache (s.consulted token context)
  | hit {s : State σ} {cache cache' : Cache} {text : String} : s.cache = some cache →
      cache.get (Key.ofToken token context) = (some text, cache') →
      Advances r token context atCache s []
        [.hit, .settled token context .cache (.cached text)] (ended (.cached text))
        { s with cache := some cache' }
  | missed {s s' : State σ} {events : List Event} :
      Missed (Key.ofToken token context) s events s' →
      Advances r token context atCache s [] events atSource s'
  | sourceless {s : State σ} : r.source = none →
      Advances r token context atSource s [] [.settled token context .nothing .empty]
        (ended .empty) s
  | nothing {s : State σ} {g : Registry σ} {visits : List Visit} {host : σ} :
      r.source = some g.toSource → g.Asked token context s.host visits none host →
      Advances r token context atSource s visits
        (told visits ++ [.settled token context .nothing .empty]) (ended .empty)
        { s with host }
  | fresh {s : State σ} {g : Registry σ} {visits : List Visit} {text : String} {host : σ} :
      r.source = some g.toSource → g.Asked token context s.host visits (some text) host →
      Advances r token context atSource s visits (told visits)
        (made text (g.ttl token.expansion token.identifier)) { s with host }
  | keep {s : State σ} {text : String} {ttl : Ttl} :
      Advances r token context (made text ttl) s []
        [.settled token context .registry (.value text)] (ended (.value text))
        (s.keep (Key.ofToken token context) text ttl)

def hasEnded : Stage → Bool
  | ended _ => true
  | waiting | atCache | atSource | made _ _ | lost => false

theorem hasEnded_iff {stage : Stage} :
    stage.hasEnded = true ↔ ∃ answer, stage = ended answer := by
  cases stage <;> simp [hasEnded]

variable {r : Resolver σ} {token : Token} {context : Context} {s s' : State σ} {stage next : Stage}
  {visits : List Visit} {events : List Event}

/-- A task that has not ended has a turn, whatever state it finds. -/
theorem advance_advances (hr : r.Calm) (hs : Customs.Direct s.customs) (inner : Inner σ)
    (token : Token) (context : Context) (hleft : 0 < stage.turnsLeft) :
    ∃ visits events next s',
      stage.advance inner r token context s = ⟨.ok next, s', events⟩ ∧
      Advances r token context stage s visits events next s' := by
  cases stage with
  | waiting =>
      simp only [advance]
      by_cases hp : Passes token context
      · simp only [gate_eq_false_iff.mpr hp, Bool.false_eq_true, if_false, Exec.bind_apply,
          Resolver.customValue_apply hs, State.consult_events]
        cases hv : (s.consult token context).value? with
        | some text => exact ⟨_, _, _, _, rfl, .custom hp hv⟩
        | none =>
            cases hrefuses : r.refuses token with
            | true => exact ⟨_, _, _, _, rfl, .refusal hp hv hrefuses⟩
            | false =>
                refine ⟨_, _, _, _, ?_, .onward ⟨hp, hv, hrefuses⟩⟩
                simp [Report.after]
      · simp only [eq_true_of_ne_false (mt gate_eq_false_iff.mp hp), if_true]
        exact ⟨_, _, _, _, rfl, .gate hp⟩
  | atCache =>
      simp only [advance, Exec.bind_apply, Exec.state_apply, Report.after_nil]
      cases hc : s.cache with
      | none => exact ⟨_, _, _, _, rfl, .missed (.uncached hc)⟩
      | some cache =>
          rcases hget : cache.get (Key.ofToken token context) with ⟨found, cache'⟩
          simp only [Option.isNone_some, Bool.false_eq_true, if_false, Exec.bind_apply,
            Exec.update_apply, State.fetch, hc, hget]
          cases found with
          | some text => exact ⟨_, _, _, _, rfl, .hit hc hget⟩
          | none => exact ⟨_, _, _, _, rfl, .missed (.missed hc hget)⟩
  | atSource =>
      simp only [advance]
      cases hsource : r.source with
      | none => exact ⟨_, _, _, _, rfl, .sourceless hsource⟩
      | some source =>
          obtain ⟨g, rfl, hg⟩ := hr source hsource
          obtain ⟨visits, text?, host, hanswer, hasked⟩ :=
            Registry.answer_asked hg token context s.host
          simp only [Registry.toSource, Exec.bind_apply, State.onHost, hanswer]
          cases text? with
          | none => exact ⟨_, _, _, _, rfl, .nothing hsource hasked⟩
          | some text =>
              refine ⟨_, _, _, _, ?_, .fresh hsource hasked⟩
              simp [Answer.ofOption, Report.after]
  | made text ttl => exact ⟨_, _, _, _, rfl, .keep⟩
  | ended | lost => cases hleft

theorem Advances.nearer (h : Advances r token context stage s visits events next s') :
    next.turnsLeft < stage.turnsLeft := by
  cases h <;> simp [turnsLeft]

theorem Advances.customs_eq (h : Advances r token context stage s visits events next s') :
    s'.customs = s.customs := by
  cases h with
  | missed hmissed => cases hmissed <;> rfl
  | _ => rfl

theorem Advances.touches (h : Advances r token context stage s visits events next s') :
    State.Touches (Key.ofToken token context) s s' := by
  cases h with
  | gate | sourceless => exact .refl _ s
  | custom | refusal | onward | nothing | fresh => exact State.touches_host _ s _
  | hit hcache hget =>
      obtain rfl := Cache.get_hit hget
      rw [← hcache]
      exact .refl _ s
  | missed hmissed => exact (State.kept?_of_missed hmissed).2.2
  | keep => exact State.touches_keep s _ _ _

theorem Advances.cached_eq (h : Advances r token context stage s visits events next s') :
    s'.cache.isSome = s.cache.isSome := by
  have hclock := congrArg Option.isSome h.touches.clock
  simpa using hclock

theorem Advances.ne_lost (h : Advances r token context stage s visits events next s') :
    next ≠ lost := by
  cases h <;> simp

/-- The calls that are reported of a turn are the visits of the turn. -/
theorem Advances.foreignCalls_eq (h : Advances r token context stage s visits events next s') :
    foreignCalls events = visits.map Visit.call := by
  cases h with
  | missed hmissed => cases hmissed <;> rfl
  | gate | hit | sourceless | keep => rfl
  | onward | fresh => exact foreignCalls_told _
  | custom | refusal | nothing =>
      rw [foreignCalls_append, foreignCalls_told]
      exact List.append_nil _

/-- A turn that ends the task, and no other, tells of a single resolution. -/
theorem Advances.settlements_cases (h : Advances r token context stage s visits events next s') :
    settlements events = [] ∧ next.hasEnded = false ∨
      ∃ origin answer, settlements events = [⟨token, context, origin, answer⟩] ∧
        next = ended answer := by
  cases h with
  | missed hmissed => exact .inl ⟨by cases hmissed <;> rfl, rfl⟩
  | onward | fresh => exact .inl ⟨settlements_told _, rfl⟩
  | gate | hit | sourceless | keep => exact .inr ⟨_, _, rfl, rfl⟩
  | custom | refusal | nothing =>
      simp only [settlements_append, settlements_told, settlements_settled, settlements_nil]
      exact .inr ⟨_, _, rfl, rfl⟩

theorem Advances.not_hasEnded (h : Advances r token context stage s visits events next s') :
    stage.hasEnded = false := by
  cases h <;> rfl

end Stage

/-! ## Measures -/

/-- What can be counted over visits and events: nothing over none, and over some and some more what
is counted over each of them. -/
structure Measure where
  of : List Visit → List Event → Nat
  of_nil : of [] [] = 0
  of_append : ∀ visits visits' events events',
    of (visits ++ visits') (events ++ events') = of visits events + of visits' events'

namespace Measure

instance : CoeFun Measure fun _ => List Visit → List Event → Nat := ⟨Measure.of⟩

def none : Measure := ⟨fun _ _ => 0, rfl, fun _ _ _ _ => rfl⟩

def ofVisits (p : Visit → Bool) : Measure :=
  ⟨fun visits _ => visits.countP p, rfl, fun _ _ _ _ => List.countP_append⟩

def ofSettled (p : Settled → Bool) : Measure :=
  ⟨fun _ events => (settlements events).countP p, rfl, fun _ _ _ _ => by
    rw [settlements_append, List.countP_append]⟩

/-- What a counter rises by. -/
def ofCounter (counter : Counter) : Measure :=
  ⟨fun _ events => count counter events, rfl, fun _ _ _ _ => count_append _ _ _⟩

@[simp] theorem none_apply (visits : List Visit) (events : List Event) :
    none visits events = 0 := rfl

@[simp] theorem ofVisits_apply (p : Visit → Bool) (visits : List Visit) (events : List Event) :
    ofVisits p visits events = visits.countP p := rfl

@[simp] theorem ofSettled_apply (p : Settled → Bool) (visits : List Visit) (events : List Event) :
    ofSettled p visits events = (settlements events).countP p := rfl

@[simp] theorem ofCounter_apply (counter : Counter) (visits : List Visit) (events : List Event) :
    ofCounter counter visits events = count counter events := rfl

end Measure

/-! ## Tasks -/

/-- The task of a resolution that has ended. -/
def Settled.task (x : Settled) : Task := ⟨x.token, .ended x.answer⟩

def Task.hasEnded (task : Task) : Bool := task.stage.hasEnded

namespace Resolver

/-! ## Work -/

/-- Turns of several tasks one after another, whichever comes next, with all visits that are made
and all that is reported. -/
inductive Works (r : Resolver σ) (context : Context) :
    List Task → State σ → List Visit → List Event → List Task → State σ → Prop
  | refl (tasks : List Task) (s : State σ) : Works r context tasks s [] [] tasks s
  | turn {before after tasks' : List Task} {token : Token} {stage next : Stage} {s u s' : State σ}
      {visits visits' : List Visit} {events events' : List Event} :
      stage.Advances r token context s visits events next u →
      Works r context (before ++ ⟨token, next⟩ :: after) u visits' events' tasks' s' →
      Works r context (before ++ ⟨token, stage⟩ :: after) s (visits ++ visits')
        (events ++ events') tasks' s'

variable {r : Resolver σ} {context : Context} {tasks tasks' tasks'' : List Task}
  {s u s' : State σ} {visits visits' : List Visit} {events events' : List Event}

theorem Works.step {token : Token} {stage next : Stage}
    (h : stage.Advances r token context s visits events next s') (before after : List Task) :
    r.Works context (before ++ ⟨token, stage⟩ :: after) s visits events
      (before ++ ⟨token, next⟩ :: after) s' := by
  rw [← List.append_nil visits, ← List.append_nil events]
  exact .turn h (.refl _ s')

theorem Works.trans (h : r.Works context tasks s visits events tasks' u)
    (h' : r.Works context tasks' u visits' events' tasks'' s') :
    r.Works context tasks s (visits ++ visits') (events ++ events') tasks'' s' := by
  induction h with
  | refl => exact h'
  | turn hturn _ ih =>
      rw [List.append_assoc, List.append_assoc]
      exact .turn hturn (ih h')

theorem Works.frame (h : r.Works context tasks s visits events tasks' s') (front back : List Task) :
    r.Works context (front ++ (tasks ++ back)) s visits events (front ++ (tasks' ++ back)) s' := by
  induction h with
  | refl => exact .refl _ _
  | @turn before after tasks' token stage next s u s' visits visits' events events' hturn _ ih =>
      have hrest : r.Works context (front ++ before ++ ⟨token, next⟩ :: (after ++ back)) u visits'
          events' (front ++ (tasks' ++ back)) s' := by simpa using ih
      simpa using Works.turn hturn hrest

theorem Works.customs_eq (h : r.Works context tasks s visits events tasks' s') :
    s'.customs = s.customs := by
  induction h with
  | refl => rfl
  | turn hturn _ ih => rw [ih, hturn.customs_eq]

theorem Works.tokens_eq (h : r.Works context tasks s visits events tasks' s') :
    tasks'.map Task.token = tasks.map Task.token := by
  induction h with
  | refl => rfl
  | turn _ _ ih => simpa using ih

theorem Works.ne_lost (h : r.Works context tasks s visits events tasks' s')
    (htasks : ∀ task ∈ tasks, task.stage ≠ .lost) : ∀ task ∈ tasks', task.stage ≠ .lost := by
  induction h with
  | refl => exact htasks
  | turn hturn _ ih =>
      apply ih
      intro task htask
      rcases List.mem_append.mp htask with hm | hm
      · exact htasks task (by simp [hm])
      · rcases List.mem_cons.mp hm with rfl | hm
        · exact hturn.ne_lost
        · exact htasks task (by simp [hm])

theorem Works.foreignCalls_eq (h : r.Works context tasks s visits events tasks' s') :
    foreignCalls events = visits.map Visit.call := by
  induction h with
  | refl => rfl
  | turn hturn _ ih => rw [foreignCalls_append, hturn.foreignCalls_eq, ih, List.map_append]

theorem Works.settlements_context (h : r.Works context tasks s visits events tasks' s') :
    ∀ x ∈ settlements events, x.context = context := by
  induction h with
  | refl => simp [settlements]
  | turn hturn _ ih =>
      intro x hx
      rw [settlements_append, List.mem_append] at hx
      rcases hx with hx | hx
      · rcases hturn.settlements_cases with ⟨hnone, -⟩ | ⟨_, _, hone, -⟩
        · simp [hnone] at hx
        · obtain rfl : x = _ := by simpa [hone] using hx
          rfl
      · exact ih x hx

/-- The tasks that have ended since are those of the resolutions that were told of. -/
theorem Works.settled_perm (h : r.Works context tasks s visits events tasks' s') :
    ((settlements events).map Settled.task ++ tasks.filter Task.hasEnded).Perm
      (tasks'.filter Task.hasEnded) := by
  induction h with
  | refl => exact .refl _
  | @turn before after tasks' token stage next s u s' visits visits' events events' hturn _ ih =>
      refine .trans ?_ ih
      have hstage : Task.hasEnded ⟨token, stage⟩ = false := hturn.not_hasEnded
      rcases hturn.settlements_cases with ⟨hnone, hnext⟩ | ⟨origin, answer, hone, rfl⟩
      · have hnext' : Task.hasEnded ⟨token, next⟩ = false := hnext
        simp [hnone, hstage, hnext']
      · have hnext : Task.hasEnded ⟨token, .ended answer⟩ = true := rfl
        have hmiddle := @List.perm_middle _ ⟨token, .ended answer⟩
          ((settlements events').map Settled.task ++ before.filter Task.hasEnded)
          (after.filter Task.hasEnded)
        simpa [hone, hstage, hnext, Settled.task] using hmiddle.symm

theorem Works.cached_eq (h : r.Works context tasks s visits events tasks' s') :
    s'.cache.isSome = s.cache.isSome := by
  induction h with
  | refl => rfl
  | turn hturn _ ih => rw [ih, hturn.cached_eq]

/-- If turns keep a measure of visits and events in balance with another one and with something that
tasks of each stage have, so does the work of tasks. The balance is in one direction or in both. -/
theorem Works.balance (R : Nat → Nat → Prop) (hrefl : ∀ n, R n n)
    (hcut : ∀ {a b c d m}, R (a + m) b → R c (d + m) → R (a + c) (b + d)) (gain spend : Measure)
    (has : Token → Stage → Nat) (h : r.Works context tasks s visits events tasks' s')
    {cached : Bool} (hcached : s.cache.isSome = cached)
    (hstep : ∀ {token stage next s u visits events},
      stage.Advances r token context s visits events next u → s.cache.isSome = cached →
        R (gain visits events + has token next) (spend visits events + has token stage)) :
    R (gain visits events + (tasks'.map fun task => has task.token task.stage).sum)
      (spend visits events + (tasks.map fun task => has task.token task.stage).sum) := by
  induction h with
  | refl =>
      rw [gain.of_nil, spend.of_nil]
      exact hrefl _
  | @turn before after tasks' token stage next s u s' visits visits' events events' hturn _ ih =>
      have hnow := hstep hturn hcached
      have hlater := ih (hturn.cached_eq.trans hcached)
      generalize hothers : ((before ++ after).map fun task => has task.token task.stage).sum = rest
      have hsum : ∀ x : Stage, ((before ++ ⟨token, x⟩ :: after).map fun task =>
          has task.token task.stage).sum = rest + has token x := by
        intro x
        simp only [← hothers, List.map_append, List.map_cons, List.sum_append, List.sum_cons]
        omega
      rw [hsum, ← Nat.add_assoc] at hlater
      have hboth := hcut hnow hlater
      rw [gain.of_append, spend.of_append, hsum]
      convert hboth using 1 <;> omega

theorem Works.le_balance (gain spend : Measure) (has : Token → Stage → Nat)
    (h : r.Works context tasks s visits events tasks' s')
    (hstep : ∀ {token stage next s u visits events},
      stage.Advances r token context s visits events next u →
        gain visits events + has token next ≤ spend visits events + has token stage) :
    gain visits events + (tasks'.map fun task => has task.token task.stage).sum ≤
      spend visits events + (tasks.map fun task => has task.token task.stage).sum :=
  h.balance (· ≤ ·) Nat.le_refl (by omega) gain spend has rfl fun hturn _ => hstep hturn

theorem complete_works (hr : r.Calm) (inner : Inner σ) (token : Token) (context : Context)
    {stage : Stage} (hstage : stage ≠ .lost) {s : State σ} (hs : Customs.Direct s.customs) :
    ∃ visits events answer s',
      stage.complete inner r token context s = ⟨.ok answer, s', events⟩ ∧
      r.Works context [⟨token, stage⟩] s visits events [⟨token, .ended answer⟩] s' := by
  by_cases hleft : 0 < stage.turnsLeft
  · obtain ⟨visits, events, next, u, hadvance, hturn⟩ :=
      Stage.advance_advances hr hs inner token context hleft
    have hnearer := hturn.nearer
    obtain ⟨visits', events', answer, s', hcomplete, hworks⟩ :=
      complete_works hr inner token context hturn.ne_lost (hturn.customs_eq ▸ hs)
    refine ⟨_, _, answer, s', ?_, (Works.step hturn [] []).trans hworks⟩
    rw [← Stage.advance_complete, Exec.bind_apply, hadvance]
    simp only [hcomplete, Report.after]
  · cases stage with
    | ended answer => exact ⟨[], [], answer, s, rfl, .refl _ s⟩
    | lost => exact (hstage rfl).elim
    | waiting | atCache | atSource | made => simp [Stage.turnsLeft] at hleft
termination_by stage.turnsLeft

theorem takeTurns_works (hr : r.Calm) (inner : Inner σ) (context : Context) (turns : List Nat)
    (htasks : ∀ task ∈ tasks, task.stage ≠ .lost) (hs : Customs.Direct s.customs) :
    ∃ visits events tasks' s',
      r.takeTurns inner context turns tasks s = ⟨.ok tasks', s', events⟩ ∧
      r.Works context tasks s visits events tasks' s' := by
  induction turns generalizing s tasks with
  | nil => exact ⟨[], [], tasks, s, rfl, .refl _ s⟩
  | cons i rest ih =>
      cases hi : tasks[i]? with
      | none =>
          simp only [Resolver.takeTurns, hi]
          exact ih htasks hs
      | some task =>
          obtain ⟨before, after, rfl, hset⟩ := exists_set_eq hi
          by_cases hleft : 0 < task.stage.turnsLeft
          · obtain ⟨visits, events, next, u, hadvance, hturn⟩ :=
              Stage.advance_advances hr hs inner task.token context hleft
            have hstep := Works.step hturn before after
            obtain ⟨visits', events', tasks', s', hrun, hworks⟩ :=
              ih (hstep.ne_lost htasks) (hturn.customs_eq ▸ hs)
            refine ⟨_, _, tasks', s', ?_, hstep.trans hworks⟩
            simp only [Resolver.takeTurns, hi, Exec.bind_apply, Exec.attempt, hadvance,
              Option.getD_some, hset]
            simp only [hrun, Report.after]
          · obtain ⟨token, stage⟩ := task
            cases stage with
            | ended answer =>
                obtain ⟨visits, events, tasks', s', hrun, hworks⟩ := ih htasks hs
                refine ⟨_, _, tasks', s', ?_, hworks⟩
                simp only [Resolver.takeTurns, hi, Stage.advance, Exec.bind_apply, Exec.attempt,
                  Exec.pure_apply, Option.getD_some, hset, hrun, Report.after_nil]
            | lost => exact (htasks ⟨token, .lost⟩ (by simp) rfl).elim
            | waiting | atCache | atSource | made => simp [Stage.turnsLeft] at hleft

theorem finishTasks_works (hr : r.Calm) (inner : Inner σ) (context : Context) (answers : Answers)
    (htasks : ∀ task ∈ tasks, task.stage ≠ .lost) (hs : Customs.Direct s.customs)
    (hkeys : tasks.Pairwise fun a b => a.token.key ≠ b.token.key) :
    ∃ visits events answers' tasks' s',
      r.finishTasks inner context tasks answers s = ⟨.ok answers', s', events⟩ ∧
      r.Works context tasks s visits events tasks' s' ∧
      (∀ task ∈ tasks', ∃ answer, task.stage = .ended answer ∧
        answers'.find? task.token.key = some answer) ∧
      ∀ key, (∀ task ∈ tasks, task.token.key ≠ key) → answers'.find? key = answers.find? key := by
  induction tasks generalizing s answers with
  | nil => exact ⟨[], [], answers, [], s, rfl, .refl _ s, by simp, fun _ _ => rfl⟩
  | cons task rest ih =>
      obtain ⟨hfirst, hrest⟩ := List.pairwise_cons.mp hkeys
      obtain ⟨visits, events, answer, u, hcomplete, hhead⟩ :=
        complete_works hr inner task.token context (htasks task List.mem_cons_self) hs
      obtain ⟨visits', events', answers', tasks', s', hrun, hworks, hended, hothers⟩ :=
        ih (answers.insert task.token.key answer)
          (fun other hother => htasks other (List.mem_cons_of_mem _ hother))
          (hhead.customs_eq ▸ hs) hrest
      have hfront : r.Works context (task :: rest) s visits events
          (⟨task.token, .ended answer⟩ :: rest) u := by simpa using hhead.frame [] rest
      have hback : r.Works context (⟨task.token, .ended answer⟩ :: rest) u visits' events'
          (⟨task.token, .ended answer⟩ :: tasks') s' := by
        simpa using hworks.frame [⟨task.token, .ended answer⟩] []
      refine ⟨_, _, answers', _, s', ?_, hfront.trans hback, ?_, ?_⟩
      · simp only [finishTasks, Exec.bind_apply, Exec.attempt, hcomplete, hrun, Report.after]
      · intro other hother
        rcases List.mem_cons.mp hother with rfl | hother
        · refine ⟨answer, rfl, ?_⟩
          rw [hothers _ fun later hlater => (hfirst later hlater).symm, Table.find?_insert,
            if_pos rfl]
        · exact hended other hother
      · intro key hkey
        rw [hothers key fun later hlater => hkey later (List.mem_cons_of_mem _ hlater),
          Table.find?_insert, if_neg (hkey task List.mem_cons_self).symm]

/-! ## Texts -/

/-- A text that is resolved by tasks for some of its tokens: the work of the tasks from their start
to their ends, and what the text is made of. -/
structure Resolved (r : Resolver σ) (tokens : List Token) (fallback : Option String) (text : String)
    (context : Context) (s : State σ) (visits : List Visit) (events : List Event) (out : String)
    (s' : State σ) : Prop where
  works : ∃ tasks, r.Works context (tokens.map fun token => { token }) s visits events tasks s' ∧
    ∀ task ∈ tasks, task.hasEnded = true
  yields : r.Yields fallback text (settlements events) out

/-- If all tasks have ended, each of them has been told of once. -/
theorem Works.settlements_perm {tokens : List Token}
    (h : r.Works context (tokens.map fun token => { token }) s visits events tasks s')
    (hended : ∀ task ∈ tasks, task.hasEnded = true) :
    ((settlements events).map Settled.task).Perm tasks := by
  have hperm := h.settled_perm
  have hnone : (tokens.map fun token => ({ token } : Task)).filter Task.hasEnded = [] := by
    simp [List.filter_eq_nil_iff, Task.hasEnded, Stage.hasEnded]
  rwa [hnone, List.append_nil, List.filter_eq_self.mpr hended] at hperm

theorem Works.settled_tokens_perm {tokens : List Token}
    (h : r.Works context (tokens.map fun token => { token }) s visits events tasks s')
    (hended : ∀ task ∈ tasks, task.hasEnded = true) :
    ((settlements events).map Settled.token).Perm tokens := by
  have hperm := (h.settlements_perm hended).map Task.token
  rw [h.tokens_eq] at hperm
  simpa [Function.comp_def, Settled.task] using hperm

variable {tokens : List Token} {fallback : Option String} {text out : String}

theorem Resolved.tokens_perm
    (h : r.Resolved tokens fallback text context s visits events out s') :
    ((settlements events).map Settled.token).Perm tokens := by
  obtain ⟨tasks, hworks, hended⟩ := h.works
  exact hworks.settled_tokens_perm hended

/-- Tasks with different keys resolve a text, whatever turns they have. -/
theorem turns_resolved (hr : r.Calm) (hs : Customs.Direct s.customs)
    (hkeys : tokens.Pairwise fun t u => t.key ≠ u.key) (inner : Inner σ) (turns : List Nat)
    (fallback : Option String) (text : String) (context : Context) :
    ∃ visits events out s',
      (do
        let tasks ← r.takeTurns inner context turns (tokens.map fun token => { token })
        let answers ← r.finishTasks inner context tasks .empty
        r.render fallback answers (r.delimiter.tokens text).reverse text) s =
          ⟨.ok out, s', events⟩ ∧
      r.Resolved tokens fallback text context s visits events out s' := by
  have hstarted : ∀ task ∈ tokens.map fun token => ({ token } : Task), task.stage ≠ .lost := by
    simp
  obtain ⟨visits, events, tasks, u, htake, hworks⟩ :=
    takeTurns_works hr inner context turns hstarted hs
  have htokens : tasks.map Task.token = tokens := by
    rw [hworks.tokens_eq]
    simp [Function.comp_def]
  have hdistinct : tasks.Pairwise fun a b => a.token.key ≠ b.token.key := by
    rw [← htokens, List.pairwise_map] at hkeys
    exact hkeys
  obtain ⟨visits', events', answers, tasks', s', hfinish, hworks', hended, hothers⟩ :=
    finishTasks_works hr inner context .empty (hworks.ne_lost hstarted) (hworks.customs_eq ▸ hs)
      hdistinct
  have hall := hworks.trans hworks'
  have hends : ∀ task ∈ tasks', task.hasEnded = true := by
    intro task htask
    obtain ⟨answer, hanswer, -⟩ := hended task htask
    rw [Task.hasEnded, hanswer]
    rfl
  have hperm := hall.settlements_perm hends
  have hsettled := hall.settled_tokens_perm hends
  have hfind : ∀ key, answers.find? key = answerIn (settlements (events ++ events')) key := by
    intro key
    by_cases hkey : ∃ x ∈ settlements (events ++ events'), x.token.key = key
    · obtain ⟨x, hx, rfl⟩ := hkey
      have hpairwise := (hsettled.pairwise_iff fun {t u} (h : t.key ≠ u.key) => h.symm).mpr hkeys
      obtain ⟨answer, hanswer, hfound⟩ :=
        hended x.task (hperm.mem_iff.mp (List.mem_map_of_mem hx))
      obtain rfl : x.answer = answer := by simpa [Settled.task] using hanswer
      rw [answerIn_eq_some hpairwise hx]
      exact hfound
    · rw [answerIn_eq_none fun x hx heq => hkey ⟨x, hx, heq⟩, hothers key, Table.find?_empty]
      intro task htask heq
      have hmem : task.token ∈ (settlements (events ++ events')).map Settled.token :=
        hsettled.mem_iff.mpr (htokens ▸ List.mem_map_of_mem htask)
      obtain ⟨x, hx, hxt⟩ := List.mem_map.mp hmem
      exact hkey ⟨x, hx, hxt ▸ heq⟩
  obtain ⟨out, hyields, hrender⟩ := r.exists_yields fallback text answers _ hfind
  refine ⟨visits ++ visits', events ++ events', out, s', ?_, ⟨tasks', hall, hends⟩, hyields⟩
  simp only [Exec.bind_apply, htake, hfinish, hrender, Report.after, List.append_nil]

theorem runTasks_resolved (hr : r.Calm) (hs : Customs.Direct s.customs)
    (hkeys : tokens.Pairwise fun t u => t.key ≠ u.key) (inner : Inner σ)
    (fallback : Option String) (text : String) (context : Context) :
    ∃ visits events out s',
      (do
        let answers ← r.runTasks inner context tokens .empty
        r.render fallback answers (r.delimiter.tokens text).reverse text) s =
          ⟨.ok out, s', events⟩ ∧
      r.Resolved tokens fallback text context s visits events out s' := by
  have hturns := turns_resolved hr hs hkeys inner [] fallback text context
  simpa only [takeTurns, pure_bind, finishTasks_waiting] using hturns

theorem resolveWithFallback_resolved (hr : r.Calm) (hs : Customs.Direct s.customs) (text : String)
    (context : Context) (fallback : Option String) :
    ∃ visits events out s',
      r.resolveWithFallback text context fallback s = ⟨.ok out, s', events⟩ ∧
      r.Resolved (onePerKey (r.delimiter.tokens text).reverse) fallback text context s visits events
        out s' := by
  rw [resolveWithFallback, pass_eq_runTasks hr.returns hs]
  exact runTasks_resolved hr hs (onePerKey_pairwise _) r.inner fallback text context

theorem resolveWithFallback_traced (hr : r.Calm) (hs : Customs.Direct s.customs) (text : String)
    (context : Context) (fallback : Option String) :
    ∃ visits events out s',
      r.resolveWithFallback text context fallback s = ⟨.ok out, s', events⟩ ∧
      r.Resolved (onePerKey (r.delimiter.tokens text).reverse) fallback text context s visits events
        out s' ∧
      r.Trace context s (settlements events) s' ∧
      (settlements events).map Settled.token = onePerKey (r.delimiter.tokens text).reverse := by
  obtain ⟨visits, events, out, s', hrun, hresolved⟩ :=
    resolveWithFallback_resolved hr hs text context fallback
  obtain ⟨_, _, _, _, hrun', rfl, htrace, htokens, -⟩ :=
    pass_traces hr.returns hs r.inner fallback text context
  cases hrun.symm.trans hrun'
  exact ⟨visits, events, out, s', hrun, hresolved, htrace, htokens⟩

theorem resolveInOrder_resolved (hr : r.Calm) (hs : Customs.Direct s.customs) (schedule : Schedule)
    (text : String) (context : Context) :
    ∃ visits events out s',
      r.resolveInOrder schedule.order text context s = ⟨.ok out, s', events⟩ ∧
      r.Resolved (schedule.order (onePerKey (r.delimiter.tokens text).reverse)) r.fallback text
        context s visits events out s' := by
  rw [resolveInOrder_eq schedule.perm]
  exact runTasks_resolved hr hs (order_pairwise schedule.perm _) r.inner r.fallback text context

theorem resolveInTurns_resolved (hr : r.Calm) (hs : Customs.Direct s.customs) (turns : List Nat)
    (text : String) (context : Context) :
    ∃ visits events out s',
      r.resolveInTurns turns text context s = ⟨.ok out, s', events⟩ ∧
      r.Resolved (onePerKey (r.delimiter.tokens text).reverse) r.fallback text context s visits
        events out s' := by
  rw [resolveInTurns_eq]
  exact turns_resolved hr hs (onePerKey_pairwise _) r.inner turns r.fallback text context

end Resolver
end Placeholder
