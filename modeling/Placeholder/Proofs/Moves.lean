import Placeholder.Proofs.Caching
import Placeholder.Proofs.Lockstep

/-!
# What happens while a resolver works

Foreign code is taken here as it comes. A custom resolver may have texts resolved and take custom
resolvers out of use before it comes back, if it comes back at all; a locator may break down. The
work of a resolver with a registry is still a sequence of moves, whatever is asked of it. `Move`
lists the moves, so what each of them keeps is kept by every piece of work, also by passes inside
passes and by passes that break down.
-/
namespace Placeholder

variable {σ S α β : Type}

/-! ## Quiet work -/

/-- If the work breaks down, it does so in one of some ways. -/
def Exec.BreaksOnly (p : Panic → Prop) (x : Exec S α) : Prop :=
  ∀ s panic, (x s).result = .error panic → p panic

namespace Exec.BreaksOnly

variable {p : Panic → Prop}

theorem pure (a : α) : BreaksOnly p (Pure.pure a : Exec S α) := fun _ _ h => nomatch h

theorem panic {q : Panic} (h : p q) : BreaksOnly p (Exec.panic q : Exec S α) := by
  intro s panic hpanic
  cases hpanic
  exact h

theorem bind {x : Exec S α} {f : α → Exec S β} (hx : BreaksOnly p x)
    (hf : ∀ a, BreaksOnly p (f a)) : BreaksOnly p (x >>= f) := by
  intro s panic hpanic
  rw [bind_apply] at hpanic
  rcases hrun : x s with ⟨q | a, s', events⟩
  · simp only [hrun] at hpanic
    cases hpanic
    exact hx s panic (by rw [hrun])
  · simp only [hrun] at hpanic
    exact hf a s' panic hpanic

theorem attempt (x : Exec S α) : BreaksOnly p (Exec.attempt x) := by
  intro s panic hpanic
  unfold Exec.attempt at hpanic
  rcases hrun : x s with ⟨_ | a, s', events⟩
  all_goals
    rw [hrun] at hpanic
    cases hpanic

end Exec.BreaksOnly

/-- The work reports nothing, and if it breaks down it does so in one of some ways. -/
structure Exec.Quiet (p : Panic → Prop) (x : Exec S α) : Prop where
  events : ∀ s, (x s).events = []
  breaks : x.BreaksOnly p

namespace Exec.Quiet

variable {p : Panic → Prop}

theorem pure (a : α) : Quiet p (Pure.pure a : Exec S α) := ⟨fun _ => rfl, .pure a⟩

theorem bind {x : Exec S α} {f : α → Exec S β} (hx : Quiet p x) (hf : ∀ a, Quiet p (f a)) :
    Quiet p (x >>= f) := by
  refine ⟨?_, hx.breaks.bind fun a => (hf a).breaks⟩
  intro s
  have hevents := hx.events s
  rw [bind_apply]
  rcases hrun : x s with ⟨_ | a, s', events⟩
  · rwa [hrun] at hevents
  · rw [hrun] at hevents
    simp only at hevents
    simp [Report.after, hevents, (hf a).events s']

end Exec.Quiet

/-! ## Answers of a registry -/

namespace Registry

/-- The locator can break down in this way. -/
def BreaksWith (g : Registry σ) (p : Panic) : Prop :=
  ∃ locator whom host, g.locator = some locator ∧ (locator whom host).1 = .panic p.message

/-- What is said about a handler admits the context, as far as the context alone can tell. -/
structure Suits (h : Handler σ) (context : Context) : Prop where
  online : h.requiresOnline = true → context.online = true
  relation : h.relational = true → context.isRelational = true

theorem ask_quiet {g : Registry σ} {locator : Locator σ} (hl : g.locator = some locator)
    (whom : Subject) : Exec.Quiet g.BreaksWith (locator.ask whom) := by
  constructor
  · intro host
    simp only [Locator.ask, Exec.bind_apply, Exec.update_apply]
    cases (locator whom host).1 <;> rfl
  · intro host p hp
    refine ⟨locator, whom, host, hl, ?_⟩
    simp only [Locator.ask, Exec.bind_apply, Exec.update_apply] at hp
    cases hw : (locator whom host).1 with
    | found | unknown =>
        rw [hw] at hp
        cases hp
    | panic message =>
        rw [hw] at hp
        cases hp
        rfl

theorem admits_quiet (g : Registry σ) (h : Handler σ) (context : Context) :
    Exec.Quiet g.BreaksWith (g.admits h context) := by
  unfold admits
  rcases context.relation with _ | ⟨viewer, target⟩
  · split_ifs
    · exact .pure false
    · exact .pure true
    · exact .pure false
    · exact .pure false
  · split_ifs
    · exact .pure false
    · exact .pure true
    · exact .pure true
    · cases hl : g.locator with
      | none => exact .pure false
      | some locator =>
          refine (ask_quiet hl viewer).bind fun a => (ask_quiet hl target).bind fun b => ?_
          split
          · exact .pure _
          · exact .pure false

theorem suits_of_admits {g : Registry σ} {h : Handler σ} {context : Context} {host : σ}
    (hadmits : (g.admits h context host).result = .ok true) : Suits h context := by
  unfold admits at hadmits
  constructor
  · intro honline
    by_contra hoffline
    rw [if_pos (by simpa [honline] using hoffline)] at hadmits
    cases hadmits
  · intro hrelational
    by_contra hplain
    have hnone : context.relation = none := by
      have hsecondary : context.secondary = none := by simpa [Context.isRelational] using hplain
      simp [Context.relation, hsecondary]
    simp only [hrelational, hnone, Bool.not_true, Bool.false_eq_true, if_false] at hadmits
    split_ifs at hadmits <;> cases hadmits

/-- All ways in which a registry answers. -/
inductive Answers (g : Registry σ) (expansion identifier : String) (context : Context) :
    Report σ Answer → Prop
  | silent (host : σ) : Answers g expansion identifier context ⟨.ok .empty, host, []⟩
  | broken {p : Panic} (host : σ) : g.BreaksWith p →
      Answers g expansion identifier context ⟨.error p, host, []⟩
  | called {h : Handler σ} {argument : Option String} (host : σ) :
      g.choose expansion identifier = some (h, argument) → Suits h context →
      Answers g expansion identifier context
        (h.call ⟨h.expansion, identifier, argument, context⟩ host)

theorem answer_answers (g : Registry σ) (expansion identifier : String) (context : Context)
    (host : σ) :
    g.Answers expansion identifier context (g.answer expansion identifier context host) := by
  unfold answer
  cases hchoose : g.choose expansion identifier with
  | none => exact .silent host
  | some chosen =>
      obtain ⟨h, argument⟩ := chosen
      have hquiet := g.admits_quiet h context
      have hevents := hquiet.events host
      simp only [Exec.bind_apply]
      rcases hadmits : g.admits h context host with ⟨p | admitted, host', events⟩
      all_goals
        rw [hadmits] at hevents
        obtain rfl : events = [] := hevents
      · exact .broken host' (hquiet.breaks host p (by rw [hadmits]))
      · cases admitted with
        | false => exact .silent host'
        | true =>
            have hsuits : Suits h context := by
              apply suits_of_admits
              rw [hadmits]
            exact .called host' hchoose hsuits

end Registry

/-! ## Moves -/

namespace Resolver

/-- Whatever can happen next while a resolver with a registry works: to the state, and to the events
that are reported. -/
inductive Move (r : Resolver σ) (g : Registry σ) : State σ → List Event → State σ → Prop
  | foreign (s : State σ) (host : σ) : Move r g s [] { s with host }
  | aside (s : State σ) {event : Event} : event.Aside → Move r g s [event] s
  | unregister (s : State σ) (expansion : String) :
      Move r g s [] (s.unregisterCustom expansion).2
  | gate (s : State σ) {token : Token} {context : Context} : token.Parsed →
      ¬ Passes token context → Move r g s [.settled token context .gate .empty] s
  | custom (s : State σ) {token : Token} {context : Context} (text : String) : token.Parsed →
      Passes token context → Move r g s [.settled token context .custom (.value text)] s
  | refusal (s : State σ) {token : Token} {context : Context} : token.Parsed →
      Passes token context → r.refuses token = true →
      Move r g s [.settled token context .refusal .empty] s
  | missed {key : Key} {s s' : State σ} {events : List Event} : Missed key s events s' →
      Move r g s events s'
  | hit {token : Token} {context : Context} {s : State σ} {cache : Cache} {text : String} :
      r.Allows token context → s.cache = some cache →
      (cache.get (Key.ofToken token context)).1 = some text →
      Move r g s [.hit, .settled token context .cache (.cached text)] s
  | nothing (s : State σ) {token : Token} {context : Context} : r.Allows token context →
      Move r g s [.settled token context .nothing .empty] s
  | declined {token : Token} {context : Context} {s : State σ} {h : Handler σ}
      {argument : Option String} {outcome : Outcome} {host : σ} : r.Allows token context →
      g.choose token.expansion token.identifier = some (h, argument) →
      Registry.Suits h context →
      h.run ⟨h.expansion, token.identifier, argument, context⟩ s.host = (outcome, host) →
      outcome.value? = none →
      Move r g s (.handlerCalled ⟨h.expansion, token.identifier, argument, context⟩ ::
        (outcome.faults h.expansion ++ [.settled token context .nothing .empty])) { s with host }
  | fresh {token : Token} {context : Context} {s : State σ} {h : Handler σ}
      {argument : Option String} {text : String} {host : σ} : r.Allows token context →
      g.choose token.expansion token.identifier = some (h, argument) →
      Registry.Suits h context →
      h.run ⟨h.expansion, token.identifier, argument, context⟩ s.host = (.value text, host) →
      Move r g s [.handlerCalled ⟨h.expansion, token.identifier, argument, context⟩,
          .settled token context .registry (.value text)]
        (State.keep { s with host } (Key.ofToken token context) text
          (g.ttl token.expansion token.identifier))

/-- Moves one after another. -/
inductive Moves (r : Resolver σ) (g : Registry σ) : State σ → List Event → State σ → Prop
  | refl (s : State σ) : Moves r g s [] s
  | step {s u s' : State σ} {first rest : List Event} : r.Move g s first u →
      Moves r g u rest s' → Moves r g s (first ++ rest) s'

variable {r : Resolver σ} {g : Registry σ}

theorem Move.moves {s s' : State σ} {events : List Event} (h : r.Move g s events s') :
    r.Moves g s events s' := by
  simpa using Moves.step h (.refl s')

theorem Moves.trans {s u s' : State σ} {first second : List Event} (h : r.Moves g s first u)
    (h' : r.Moves g u second s') : r.Moves g s (first ++ second) s' := by
  induction h with
  | refl => exact h'
  | step hmove _ ih =>
      rw [List.append_assoc]
      exact .step hmove (ih h')

/-- The work is a sequence of moves, whatever state it is done in. -/
def ByMoves (r : Resolver σ) (g : Registry σ) (x : Exec (State σ) α) : Prop :=
  ∀ s, r.Moves g s (x s).events (x s).state

namespace ByMoves

theorem pure (a : α) : r.ByMoves g (Pure.pure a) := fun s => .refl s

theorem panic (p : Panic) : r.ByMoves g (Exec.panic p : Exec (State σ) α) := fun s => .refl s

theorem state : r.ByMoves g Exec.state := fun s => .refl s

theorem bind {x : Exec (State σ) α} {f : α → Exec (State σ) β} (hx : r.ByMoves g x)
    (hf : ∀ a, r.ByMoves g (f a)) : r.ByMoves g (x >>= f) := by
  intro s
  have hfirst := hx s
  rw [Exec.bind_apply]
  rcases hrun : x s with ⟨_ | a, s', events⟩
  · rwa [hrun] at hfirst
  · rw [hrun] at hfirst
    exact hfirst.trans (hf a s')

theorem attempt {x : Exec (State σ) α} (hx : r.ByMoves g x) : r.ByMoves g (Exec.attempt x) := by
  intro s
  have hs := hx s
  unfold Exec.attempt
  rcases hrun : x s with ⟨_ | a, s', events⟩ <;> rwa [hrun] at hs

theorem foreign (host : σ) : r.ByMoves g (Exec.change fun s => { s with host }) :=
  fun s => (Move.foreign s host).moves

theorem aside {event : Event} (h : event.Aside) : r.ByMoves g (Exec.report event) :=
  fun s => (Move.aside s h).moves

end ByMoves

/-! ## The work of a resolver -/

variable {token : Token} {context : Context}

theorem produce_byMoves (hsource : r.source = some g.toSource) (ha : r.Allows token context) :
    r.ByMoves g (r.produce token context) := by
  intro s
  unfold produce
  have hanswer := g.answer_answers token.expansion token.identifier context s.host
  have hsame : g.toSource.answer = g.answer := rfl
  simp only [hsource, Exec.bind_apply, State.onHost, hsame]
  generalize g.answer token.expansion token.identifier context s.host = report at hanswer ⊢
  cases hanswer with
  | silent host => exact .step (.foreign s host) (Move.nothing _ ha).moves
  | broken host => exact (Move.foreign s host).moves
  | @called h argument host hchoose hsuits =>
      refine .step (.foreign s host) ?_
      rw [Handler.call_apply]
      rcases hrun : h.run ⟨h.expansion, token.identifier, argument, context⟩ host with
        ⟨outcome, host'⟩
      cases hvalue : outcome.value? with
      | none =>
          have hmove := Move.declined (s := { s with host }) ha hchoose hsuits hrun hvalue
          simpa [hvalue, Answer.ofOption, settled, Exec.bind_apply, Report.after] using hmove.moves
      | some text =>
          obtain rfl := Outcome.value?_eq_some_iff.mp hvalue
          have hmove := Move.fresh (s := { s with host }) ha hchoose hsuits hrun
          exact hmove.moves

theorem lookup_byMoves (hsource : r.source = some g.toSource) (ha : r.Allows token context) :
    r.ByMoves g (r.lookup token context) := by
  intro s
  unfold lookup
  simp only [Exec.bind_apply, Exec.state_apply, Report.after_nil]
  rcases hc : s.cache with _ | cache
  · exact produce_byMoves hsource ha s
  · simp only [Option.isNone_some, Bool.false_eq_true, if_false, Exec.bind_apply,
      Exec.update_apply, State.fetch, hc]
    rcases hget : cache.get (Key.ofToken token context) with ⟨_ | text, cache'⟩
    · exact (Move.missed (.missed hc hget)).moves.trans
        (produce_byMoves hsource ha { s with cache := some cache' })
    · have hmove := Move.hit (g := g) ha hc (congrArg Prod.fst hget)
      obtain rfl := Cache.get_hit hget
      have hsame : { s with cache := some cache' } = s := by rw [← hc]
      simpa [hsame, settled, Exec.bind_apply, Report.after] using hmove.moves

theorem closed_byMoves (hsource : r.source = some g.toSource) :
    r.Closed fun x => r.ByMoves g x where
  value := .pure
  panic := .panic
  state := .state
  bind := .bind
  attempt := .attempt
  foreign := .foreign
  aside := .aside
  unregister expansion s := (Move.unregister s expansion).moves
  gate ht hp s := (Move.gate s ht hp).moves
  custom text ht hp s := (Move.custom s text ht hp).moves
  refusal ht hp hrefuses s := (Move.refusal s ht hp hrefuses).moves
  lookup := lookup_byMoves hsource

end Resolver

/-- Every question is dealt with by moves, whatever foreign code does. -/
theorem Query.perform_byMoves {r : Resolver σ} {g : Registry σ}
    (hsource : r.source = some g.toSource) (query : Query) : r.ByMoves g (query.perform r) :=
  (Resolver.closed_byMoves hsource).query query

/-! ## Calls of handlers -/

namespace Resolver

variable {r : Resolver σ} {g : Registry σ} {request : Request} {first second after : List Event}

/-- A handler is called for a token: it is the one that is chosen for the token, and nothing keeps
it from the context that it is called with. -/
structure CallsFor (r : Resolver σ) (g : Registry σ) (token : Token) (h : Handler σ)
    (request : Request) : Prop where
  allows : r.Allows token request.context
  chosen : g.choose token.expansion token.identifier = some (h, request.argument)
  suits : Registry.Suits h request.context
  expansion : request.expansion = h.expansion
  identifier : request.identifier = token.identifier

/-- What follows on the call of a handler: the token that it was called for is settled. In between
may stand that the handler failed, and then the token has no value. -/
inductive Attended (r : Resolver σ) (g : Registry σ) (request : Request) : List Event → Prop
  | settled {token : Token} {h : Handler σ} {rest : List Event} (origin : Origin)
      (answer : Answer) : r.CallsFor g token h request →
      Attended r g request (.settled token request.context origin answer :: rest)
  | failed {token : Token} {h : Handler σ} {rest : List Event} : r.CallsFor g token h request →
      Attended r g request
        (.failed h.expansion :: .settled token request.context .nothing .empty :: rest)

theorem Attended.append (h : r.Attended g request after) (more : List Event) :
    r.Attended g request (after ++ more) := by
  cases h with
  | settled origin answer hcalls => exact .settled origin answer hcalls
  | failed hcalls => exact .failed hcalls

/-- All calls of handlers among the events are attended to. -/
def Attentive (r : Resolver σ) (g : Registry σ) (events : List Event) : Prop :=
  ∀ before request after, events = before ++ .handlerCalled request :: after →
    r.Attended g request after

theorem Attentive.of_notMem (h : ∀ request, Event.handlerCalled request ∉ first) :
    r.Attentive g first := by
  intro before request after he
  exact (h request (by simp [he])).elim

theorem Attentive.cons (h : r.Attended g request after)
    (hnone : ∀ request, Event.handlerCalled request ∉ after) :
    r.Attentive g (.handlerCalled request :: after) := by
  intro before other rest he
  cases before with
  | nil =>
      cases he
      exact h
  | cons e before =>
      cases he
      exact (hnone other (by simp)).elim

theorem Attentive.append (h : r.Attentive g first) (h' : r.Attentive g second) :
    r.Attentive g (first ++ second) := by
  intro before request after he
  rcases List.append_eq_append_iff.mp he with ⟨more, rfl, hsecond⟩ | ⟨more, hfirst, hafter⟩
  · exact h' more request after hsecond
  · cases more with
    | nil => exact h' [] request after hafter.symm
    | cons e more =>
        cases hafter
        exact (h before request more hfirst).append second

theorem Move.attentive {s s' : State σ} {events : List Event} (h : r.Move g s events s') :
    r.Attentive g events := by
  cases h with
  | foreign | unregister | gate | custom | refusal | hit | nothing =>
      exact .of_notMem (by simp)
  | aside s haside => exact .of_notMem (by cases haside <;> simp)
  | missed hmissed => exact .of_notMem (by cases hmissed <;> simp)
  | @declined _ _ _ _ _ outcome _ ha hchoose hsuits _ hvalue =>
      cases outcome with
      | value text => cases hvalue
      | decline =>
          exact .cons (.settled _ _ ⟨ha, hchoose, hsuits, rfl, rfl⟩) (by simp [Outcome.faults])
      | failure | panic =>
          exact .cons (.failed ⟨ha, hchoose, hsuits, rfl, rfl⟩) (by simp [Outcome.faults])
  | fresh ha hchoose hsuits =>
      exact .cons (.settled _ _ ⟨ha, hchoose, hsuits, rfl, rfl⟩) (by simp)

theorem Moves.attentive {s s' : State σ} {events : List Event} (h : r.Moves g s events s') :
    r.Attentive g events := by
  induction h with
  | refl => exact .of_notMem (by simp)
  | step hmove _ ih => exact hmove.attentive.append ih

end Resolver

end Placeholder
