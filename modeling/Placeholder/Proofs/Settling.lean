import Placeholder.Resolver.Settling
import Mathlib.Tactic.SplitIfs

/-!
# What a single resolution does

Foreign code is taken as it is promised to behave: a custom resolver comes back without turning to
the resolver that it serves, and a source comes back with a value or without one. A single
resolution then takes one of six ways, and `Settles` lists for each of them what it needs, what it
reports, and what it does to the state.
-/
namespace Placeholder

variable {σ : Type}

def Outcome.value? : Outcome → Option String
  | value text => some text
  | decline | failure _ | panic _ => none

theorem Outcome.value?_eq_some_iff {outcome : Outcome} {text : String} :
    outcome.value? = some text ↔ outcome = .value text := by
  cases outcome <;> simp [value?]

def Outcome.faults (expansion : String) : Outcome → List Event
  | value _ | decline => []
  | failure _ | panic _ => [.failed expansion]

/-- A single resolution that has ended. -/
structure Settled where
  token : Token
  context : Context
  origin : Origin
  answer : Answer

def Event.settled? : Event → Option Settled
  | settled token context origin answer => some ⟨token, context, origin, answer⟩
  | _ => none

/-- The single resolutions among the events of a run. -/
def settlements (events : List Event) : List Settled := events.filterMap Event.settled?

@[simp] theorem settlements_append (first second : List Event) :
    settlements (first ++ second) = settlements first ++ settlements second :=
  List.filterMap_append

@[simp] theorem settlements_faults (outcome : Outcome) (expansion : String) :
    settlements (outcome.faults expansion) = [] := by
  cases outcome <;> rfl

def Custom.Direct (custom : Custom σ) : Prop :=
  ∀ context identifier host, ∃ outcome host', custom context identifier host = .finish outcome host'

def Customs.Direct (customs : Customs σ) : Prop :=
  ∀ name custom, customs.find? name = some custom → Custom.Direct custom

/-- Every question to the source comes back with a value or without one. -/
def Source.Returns (source : Source σ) : Prop :=
  ∀ expansion identifier context host, ∃ text? host' events,
    source.answer expansion identifier context host =
      ⟨.ok (Answer.ofOption text?), host', events⟩ ∧ settlements events = []

def Resolver.Returns (r : Resolver σ) : Prop := ∀ source, r.source = some source → source.Returns

theorem Resolver.forall_source {r : Resolver σ} {source : Source σ}
    (hsource : r.source = some source) {p : Source σ → Prop} (hp : p source) :
    ∀ other, r.source = some other → p other := by
  intro other hother
  exact Option.some.inj (hsource.symm.trans hother) ▸ hp

/-! ## Registries as sources -/

/-- The locator never breaks down. -/
def Registry.Calm (g : Registry σ) : Prop :=
  ∀ locator, g.locator = some locator → ∀ whom host message, (locator whom host).1 ≠ .panic message

def Sighting.place? : Sighting → Option Location
  | found place => some place
  | unknown | panic _ => none

theorem Locator.ask_apply (locator : Locator σ) (whom : Subject) (host : σ)
    (h : ∀ message, (locator whom host).1 ≠ .panic message) :
    locator.ask whom host = ⟨.ok (locator whom host).1.place?, (locator whom host).2, []⟩ := by
  simp only [ask, Exec.bind_apply, Exec.update_apply]
  cases hw : (locator whom host).1 with
  | found place => rfl
  | unknown => rfl
  | panic message => exact (h message hw).elim

theorem Handler.call_apply (h : Handler σ) (request : Request) (host : σ) :
    h.call request host = ⟨.ok (Answer.ofOption (h.run request host).1.value?),
      (h.run request host).2,
      .handlerCalled request :: (h.run request host).1.faults request.expansion⟩ := by
  simp only [call, Exec.bind_apply, Exec.update_apply, Exec.report_apply]
  cases (h.run request host).1 <;> rfl

namespace Registry

variable {g : Registry σ}

theorem admits_apply (hg : g.Calm) (h : Handler σ) (context : Context) (host : σ) :
    ∃ admitted host', g.admits h context host = ⟨.ok admitted, host', []⟩ := by
  unfold admits
  rcases context.relation with _ | ⟨viewer, target⟩
  · split_ifs
    · exact ⟨false, host, rfl⟩
    · exact ⟨true, host, rfl⟩
    · exact ⟨false, host, rfl⟩
    · exact ⟨false, host, rfl⟩
  · rcases hl : g.locator with _ | locator
    · split_ifs
      · exact ⟨false, host, rfl⟩
      · exact ⟨true, host, rfl⟩
      · exact ⟨true, host, rfl⟩
      · exact ⟨false, host, rfl⟩
    · split_ifs
      · exact ⟨false, host, rfl⟩
      · exact ⟨true, host, rfl⟩
      · exact ⟨true, host, rfl⟩
      · simp only [Exec.bind_apply, Locator.ask_apply locator _ _ (hg locator hl _ _),
          Report.after_nil]
        generalize (locator viewer host).1.place? = a
        generalize (locator target (locator viewer host).2).1.place? = b
        rcases a with _ | a
        · exact ⟨false, _, rfl⟩
        · rcases b with _ | b
          · exact ⟨false, _, rfl⟩
          · exact ⟨_, _, rfl⟩

theorem Calm.returns (hg : g.Calm) : g.toSource.Returns := by
  intro expansion identifier context host
  simp only [toSource, answer]
  cases g.choose expansion identifier with
  | none => exact ⟨none, host, [], rfl, rfl⟩
  | some chosen =>
      obtain ⟨h, argument⟩ := chosen
      obtain ⟨admitted, host', hadmits⟩ := admits_apply hg h context host
      simp only [Exec.bind_apply, hadmits, Report.after_nil]
      cases admitted with
      | false => exact ⟨none, host', [], rfl, rfl⟩
      | true =>
          refine ⟨_, _, _, Handler.call_apply h _ host', ?_⟩
          exact settlements_faults _ _

/-- A registry in which one handler answers all identifiers of its expansion. -/
def single (h : Handler σ) : Registry σ :=
  { empty with families := Table.empty.insert h.expansion { Family.empty with any := some h } }

theorem single_calm (h : Handler σ) : (single h).Calm := by
  intro locator hl
  cases hl

end Registry

def Handler.constant (expansion : String) (ttl : Ttl) (text : String) : Handler Unit :=
  { expansion, pattern := .any, ttl := some ttl, run := fun _ host => (.value text, host) }

/-- A resolver that takes its values from a registry and is standard for the rest. -/
def Registry.toResolver (g : Registry σ) : Resolver σ := { source := some g.toSource }

/-! ## Custom resolvers -/

/-- What comes of asking the custom resolver of a token. -/
structure Consultation (σ : Type) where
  value? : Option String
  host : σ
  events : List Event

/-- Asks the custom resolver of a token, if there is one that comes back at once. -/
def State.consult (s : State σ) (token : Token) (context : Context) : Consultation σ :=
  match s.customs.ofExpansion? token.expansion with
  | none => ⟨none, s.host, []⟩
  | some custom =>
      match custom context token.identifier s.host with
      | .finish outcome host => ⟨outcome.value?, host,
          .customCalled token.expansion token.identifier context ::
            outcome.faults token.expansion⟩
      | _ => ⟨none, s.host, []⟩

def State.consulted (s : State σ) (token : Token) (context : Context) : State σ :=
  { s with host := (s.consult token context).host }

theorem settlements_consult (s : State σ) (token : Token) (context : Context) :
    settlements (s.consult token context).events = [] := by
  unfold State.consult
  split
  · rfl
  · split
    · exact settlements_faults _ _
    · rfl

theorem Resolver.customValue_apply {s : State σ} (hs : Customs.Direct s.customs) (inner : Inner σ)
    (token : Token) (context : Context) :
    customValue inner token context s = ⟨.ok (s.consult token context).value?,
      s.consulted token context, (s.consult token context).events⟩ := by
  simp only [customValue, State.consulted, State.consult, Exec.bind_apply, Exec.state_apply]
  cases hc : s.customs.ofExpansion? token.expansion with
  | none => rfl
  | some custom =>
      obtain ⟨outcome, host, hrun⟩ := hs _ custom hc context token.identifier s.host
      simp only [hrun]
      cases outcome <;> rfl

/-! ## The ways of a resolution -/

/-- The context has what the token needs. -/
def Passes (token : Token) (context : Context) : Prop :=
  token.relational = true → context.isRelational = true

theorem gate_eq_false_iff {token : Token} {context : Context} :
    (token.relational && !context.isRelational) = false ↔ Passes token context := by
  unfold Passes
  cases token.relational <;> simp

/-- The cache was asked in vain, if there is one; it may have dropped what it had. -/
inductive Missed (key : Key) (s : State σ) : List Event → State σ → Prop
  | uncached : s.cache = none → Missed key s [] s
  | missed {cache cache' : Cache} : s.cache = some cache → cache.get key = (none, cache') →
      Missed key s [.miss] { s with cache := some cache' }

namespace Resolver

/-- The ways in which the source settles a token. -/
inductive Produces (r : Resolver σ) (token : Token) (context : Context) (s : State σ) :
    List Event → Origin → Answer → State σ → Prop
  | sourceless : r.source = none → Produces r token context s [] .nothing .empty s
  | nothing {source : Source σ} {host : σ} {events : List Event} : r.source = some source →
      source.answer token.expansion token.identifier context s.host = ⟨.ok .empty, host, events⟩ →
      Produces r token context s events .nothing .empty { s with host }
  | fresh {source : Source σ} {text : String} {host : σ} {events : List Event} :
      r.source = some source →
      source.answer token.expansion token.identifier context s.host =
        ⟨.ok (.value text), host, events⟩ →
      Produces r token context s events .registry (.value text)
        (State.keep { s with host } (Key.ofToken token context) text
          (source.ttl token.expansion token.identifier))

/-- Neither the gate nor a custom resolver nor the refusal has settled the token. -/
structure Reaches (r : Resolver σ) (token : Token) (context : Context) (s : State σ) : Prop where
  passes : Passes token context
  declined : (s.consult token context).value? = none
  allowed : r.refuses token = false

/-- All ways in which a token is settled. -/
inductive Settles (r : Resolver σ) (token : Token) (context : Context) (s : State σ) :
    List Event → Origin → Answer → State σ → Prop
  | gate : ¬ Passes token context → Settles r token context s [] .gate .empty s
  | custom {text : String} : Passes token context →
      (s.consult token context).value? = some text →
      Settles r token context s (s.consult token context).events .custom (.value text)
        (s.consulted token context)
  | refusal : Passes token context → (s.consult token context).value? = none →
      r.refuses token = true →
      Settles r token context s (s.consult token context).events .refusal .empty
        (s.consulted token context)
  | hit {text : String} {cache cache' : Cache} : r.Reaches token context s →
      s.cache = some cache → cache.get (Key.ofToken token context) = (some text, cache') →
      Settles r token context s ((s.consult token context).events ++ [.hit]) .cache (.cached text)
        { s.consulted token context with cache := some cache' }
  | produced {u s' : State σ} {asked events : List Event} {origin : Origin} {answer : Answer} :
      r.Reaches token context s →
      Missed (Key.ofToken token context) (s.consulted token context) asked u →
      r.Produces token context u events origin answer s' →
      Settles r token context s ((s.consult token context).events ++ (asked ++ events)) origin
        answer s'

theorem produce_produces {r : Resolver σ} (hr : r.Returns) (token : Token) (context : Context)
    (s : State σ) :
    ∃ events origin answer s',
      r.produce token context s =
        ⟨.ok answer, s', events ++ [.settled token context origin answer]⟩ ∧
      settlements events = [] ∧ r.Produces token context s events origin answer s' := by
  unfold produce
  rcases hsource : r.source with _ | source
  · exact ⟨[], .nothing, .empty, s, rfl, rfl, .sourceless hsource⟩
  · obtain ⟨text?, host, events, ha, he⟩ :=
      hr source hsource token.expansion token.identifier context s.host
    simp only [Exec.bind_apply, State.onHost, ha]
    cases text? with
    | none => exact ⟨events, .nothing, .empty, _, rfl, he, .nothing hsource ha⟩
    | some text => exact ⟨events, .registry, .value text, _, rfl, he, .fresh hsource ha⟩

theorem lookup_settles {r : Resolver σ} (hr : r.Returns) {token : Token} {context : Context}
    {s : State σ} (hreach : r.Reaches token context s) :
    ∃ events origin answer s',
      r.lookup token context (s.consulted token context) =
        ⟨.ok answer, s', events ++ [.settled token context origin answer]⟩ ∧
      settlements events = [] ∧
      r.Settles token context s ((s.consult token context).events ++ events) origin answer s' := by
  have hsame : (s.consulted token context).cache = s.cache := rfl
  simp only [lookup, Exec.bind_apply, Exec.state_apply, Report.after_nil, hsame]
  rcases hc : s.cache with _ | cache
  · obtain ⟨events, origin, answer, s', hp, he, hproduces⟩ :=
      produce_produces hr token context (s.consulted token context)
    exact ⟨events, origin, answer, s', hp, he, .produced hreach (.uncached hc) hproduces⟩
  · rcases hget : cache.get (Key.ofToken token context) with ⟨found, cache'⟩
    simp only [Option.isNone_some, Bool.false_eq_true, if_false, Exec.bind_apply,
      Exec.update_apply, State.fetch, hsame, hc, hget]
    cases found with
    | some text => exact ⟨[.hit], .cache, .cached text, _, rfl, rfl, .hit hreach hc hget⟩
    | none =>
        obtain ⟨events, origin, answer, s', hp, he, hproduces⟩ := produce_produces hr token context
          { s.consulted token context with cache := some cache' }
        refine ⟨.miss :: events, origin, answer, s', ?_, he,
          .produced hreach (.missed hc hget) hproduces⟩
        exact congrArg (fun x => x.after [.miss]) hp

/-- A single resolution always comes back, has told of itself last, and has taken one of the ways
listed above. -/
theorem settle_settles {r : Resolver σ} (hr : r.Returns) {s : State σ}
    (hs : Customs.Direct s.customs) (inner : Inner σ) (token : Token) (context : Context) :
    ∃ events origin answer s',
      r.settle inner token context s =
        ⟨.ok answer, s', events ++ [.settled token context origin answer]⟩ ∧
      settlements events = [] ∧ r.Settles token context s events origin answer s' := by
  unfold settle
  by_cases hp : Passes token context
  · have hgate := gate_eq_false_iff.mpr hp
    have hquiet := settlements_consult s token context
    simp only [hgate, Bool.false_eq_true, if_false, Exec.bind_apply, customValue_apply hs]
    rcases hv : (s.consult token context).value? with _ | text
    · by_cases hrefuses : r.refuses token = true
      · refine ⟨_, .refusal, .empty, _, ?_, hquiet, .refusal hp hv hrefuses⟩
        simp only [hrefuses, if_true]
        rfl
      · have hallowed : r.refuses token = false := by simpa using hrefuses
        obtain ⟨events, origin, answer, s', hl, he, hsettles⟩ :=
          lookup_settles hr ⟨hp, hv, hallowed⟩
        refine ⟨_, origin, answer, s', ?_, ?_, hsettles⟩
        · simp only [hallowed, Bool.false_eq_true, if_false, hl, Report.after,
            List.append_assoc]
        · rw [settlements_append, hquiet, he, List.append_nil]
    · exact ⟨_, .custom, .value text, _, rfl, hquiet, .custom hp hv⟩
  · have hgate := eq_true_of_ne_false (mt gate_eq_false_iff.mp hp)
    simp only [hgate, if_true]
    exact ⟨[], .gate, .empty, s, rfl, rfl, .gate hp⟩

theorem Settles.customs_eq {r : Resolver σ} {token : Token} {context : Context} {s s' : State σ}
    {events : List Event} {origin : Origin} {answer : Answer}
    (h : r.Settles token context s events origin answer s') : s'.customs = s.customs := by
  cases h with
  | gate | custom | refusal | hit => rfl
  | produced _ hmissed hproduces =>
      cases hmissed <;> cases hproduces <;> rfl

end Resolver

/-! ## What is told last -/

theorem Exec.bind_pure_apply {S α β : Type} (x : Exec S α) (f : α → β) (s : S) :
    (x >>= fun a => pure (f a)) s = ⟨(x s).result.map f, (x s).state, (x s).events⟩ := by
  rw [bind_apply]
  rcases x s with ⟨_ | a, s', events⟩
  · rfl
  · simp [Report.after, Except.map]

/-- If there is an answer, the last that was told is that the token has it, by one of the origins in
question. -/
def Report.Tells (token : Token) (context : Context) (p : Origin → Prop)
    (x : Report (State σ) Answer) : Prop :=
  ∀ answer, x.result = .ok answer →
    ∃ origin, p origin ∧ x.events.getLast? = some (.settled token context origin answer)

def Exec.Tells (token : Token) (context : Context) (p : Origin → Prop)
    (x : Exec (State σ) Answer) : Prop :=
  ∀ s, (x s).Tells token context p

variable {token : Token} {context : Context} {p q : Origin → Prop}

theorem Report.Tells.after {x : Report (State σ) Answer} (h : x.Tells token context p)
    (earlier : List Event) : (x.after earlier).Tells token context p := by
  intro answer hanswer
  obtain ⟨origin, horigin, hlast⟩ := h answer hanswer
  exact ⟨origin, horigin, by simp [Report.after, List.getLast?_append, hlast]⟩

namespace Exec.Tells

theorem settled {origin : Origin} (h : p origin) (answer : Answer) :
    Tells token context p
      (Placeholder.settled token context origin answer : Exec (State σ) Answer) := by
  intro s a ha
  cases ha
  exact ⟨origin, h, rfl⟩

theorem bind {α : Type} {x : Exec (State σ) α} {f : α → Exec (State σ) Answer}
    (hf : ∀ a, Tells token context p (f a)) : Tells token context p (x >>= f) := by
  intro s
  rw [bind_apply]
  rcases x s with ⟨_ | a, s', events⟩
  · intro answer hanswer
    cases hanswer
  · exact (hf a s').after events

theorem mono {x : Exec (State σ) Answer} (h : x.Tells token context p)
    (hpq : ∀ origin, p origin → q origin) : x.Tells token context q := by
  intro s answer hanswer
  obtain ⟨origin, horigin, hlast⟩ := h s answer hanswer
  exact ⟨origin, hpq origin horigin, hlast⟩

end Exec.Tells

namespace Resolver

theorem produce_tells (r : Resolver σ) (token : Token) (context : Context) :
    (r.produce token context).Tells token context (· ≠ .custom) := by
  unfold produce
  cases r.source with
  | none => exact .settled (by decide) _
  | some source =>
      refine .bind fun answer => ?_
      cases answer with
      | value text => exact .bind fun _ => .settled (by decide) _
      | cached | empty => exact .settled (by decide) _

theorem lookup_tells (r : Resolver σ) (token : Token) (context : Context) :
    (r.lookup token context).Tells token context (· ≠ .custom) := by
  refine .bind fun s => ?_
  split
  · exact r.produce_tells token context
  · refine .bind fun found => ?_
    cases found with
    | some text => exact .bind fun _ => .settled (by decide) _
    | none => exact .bind fun _ => r.produce_tells token context

/-- Whatever foreign code does, the answer to a token is the one that was told of last. -/
theorem settle_tells (inner : Inner σ) (r : Resolver σ) (token : Token) (context : Context) :
    (r.settle inner token context).Tells token context fun _ => True := by
  unfold settle
  split
  · exact .settled trivial _
  · refine .bind fun text? => ?_
    cases text? with
    | some text => exact .settled trivial _
    | none =>
        dsimp only
        split
        · exact .settled trivial _
        · exact (r.lookup_tells token context).mono fun _ _ => trivial

end Resolver
end Placeholder
