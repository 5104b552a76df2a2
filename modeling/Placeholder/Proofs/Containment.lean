import Placeholder.Proofs.Moves

/-!
# What becomes of failures

Handlers and custom resolvers that fail or panic are as good as ones that decline: nobody but the
counters can tell. A locator is called outside of what catches panics. If it breaks down while a
text is resolved, the whole text is lost, unless its tokens are settled by tasks. That is the only
way in which a question is left without a reply.
-/
namespace Placeholder

variable {σ α β γ δ : Type}

/-- The resolver with a registry for its source. -/
def Resolver.over (r : Resolver σ) (g : Registry σ) : Resolver σ :=
  { r with source := some g.toSource }

/-! ## Where panics come from -/

namespace Exec.BreaksOnly

variable {S : Type} {p : Panic → Prop}

theorem state : BreaksOnly p (Exec.state : Exec S S) := fun _ _ h => nomatch h

theorem change (f : S → S) : BreaksOnly p (Exec.change f) := fun _ _ h => nomatch h

theorem update (f : S → α × S) : BreaksOnly p (Exec.update f) := fun _ _ h => nomatch h

theorem report (event : Event) : BreaksOnly p (Exec.report event : Exec S Unit) :=
  fun _ _ h => nomatch h

theorem settled (token : Token) (context : Context) (origin : Origin) (answer : Answer) :
    BreaksOnly p (Placeholder.settled token context origin answer : Exec (State σ) Answer) :=
  (report _).bind fun _ => .pure answer

end Exec.BreaksOnly

theorem Registry.answer_breaksOnly (g : Registry σ) (expansion identifier : String)
    (context : Context) : (g.answer expansion identifier context).BreaksOnly g.BreaksWith := by
  intro host panic hpanic
  have hanswer := g.answer_answers expansion identifier context host
  generalize g.answer expansion identifier context host = report at hanswer hpanic
  cases hanswer with
  | silent => cases hpanic
  | broken host hbreaks =>
      cases hpanic
      exact hbreaks
  | called =>
      rw [Handler.call_apply] at hpanic
      cases hpanic

namespace Resolver

theorem produce_breaksOnly (r : Resolver σ) (g : Registry σ) (token : Token) (context : Context) :
    ((r.over g).produce token context).BreaksOnly g.BreaksWith := by
  refine Exec.BreaksOnly.bind ?_ fun answer => ?_
  · exact fun s => g.answer_breaksOnly token.expansion token.identifier context s.host
  · cases answer with
    | value text => exact (Exec.BreaksOnly.change _).bind fun _ => .settled _ _ _ _
    | cached | empty => exact .settled _ _ _ _

theorem lookup_breaksOnly (r : Resolver σ) (g : Registry σ) (token : Token) (context : Context) :
    ((r.over g).lookup token context).BreaksOnly g.BreaksWith := by
  refine Exec.BreaksOnly.state.bind fun s => ?_
  split
  · exact produce_breaksOnly r g token context
  · refine (Exec.BreaksOnly.update _).bind fun found => ?_
    cases found with
    | some text => exact (Exec.BreaksOnly.report _).bind fun _ => .settled _ _ _ _
    | none =>
        exact (Exec.BreaksOnly.report _).bind fun _ => produce_breaksOnly r g token context

theorem customValue_breaksOnly (p : Panic → Prop) (inner : Inner σ) (token : Token)
    (context : Context) : (customValue inner token context).BreaksOnly p := by
  refine Exec.BreaksOnly.state.bind fun s => ?_
  split
  · exact .pure none
  · refine (Exec.BreaksOnly.report _).bind fun _ =>
      (Exec.BreaksOnly.attempt _).bind fun outcome => ?_
    split
    · exact .pure _
    · exact .pure none
    all_goals exact (Exec.BreaksOnly.report _).bind fun _ => .pure none

theorem settle_breaksOnly (r : Resolver σ) (g : Registry σ) (inner : Inner σ) (token : Token)
    (context : Context) : ((r.over g).settle inner token context).BreaksOnly g.BreaksWith := by
  unfold settle
  split
  · exact .settled _ _ _ _
  · refine (customValue_breaksOnly _ inner token context).bind fun text? => ?_
    cases text? with
    | some text => exact .settled _ _ _ _
    | none =>
        change Exec.BreaksOnly _ (if _ then _ else _)
        split
        · exact .settled _ _ _ _
        · exact lookup_breaksOnly r g token context

theorem settleEach_breaksOnly (r : Resolver σ) (g : Registry σ) (inner : Inner σ)
    (context : Context) (tokens : List Token) (answers : Answers) :
    ((r.over g).settleEach inner context tokens answers).BreaksOnly g.BreaksWith := by
  induction tokens generalizing answers with
  | nil => exact .pure answers
  | cons t rest ih =>
      unfold settleEach
      split_ifs
      · exact ih answers
      · exact (settle_breaksOnly r g inner t context).bind fun answer => ih _

theorem runTasks_breaksOnly (p : Panic → Prop) (r : Resolver σ) (inner : Inner σ)
    (context : Context) (tokens : List Token) (answers : Answers) :
    (r.runTasks inner context tokens answers).BreaksOnly p := by
  induction tokens generalizing answers with
  | nil => exact .pure answers
  | cons t rest ih =>
      refine (Exec.BreaksOnly.attempt _).bind fun answer? => ?_
      split
      · exact ih _
      · exact ih answers

/-- The tokens of a text are where they say. -/
theorem render_breaksOnly (p : Panic → Prop) (r : Resolver σ) (fallback : Option String)
    (answers : Answers) {text : String} {tokens : List Token}
    (htokens : r.tokens? text = some tokens) :
    (r.render fallback answers tokens.reverse text).BreaksOnly p := by
  intro s panic hpanic
  obtain ⟨out, hout, -⟩ := r.render_eq_weave fallback answers text
  rw [tokens_eq_of_tokens? htokens] at hout
  rw [hout s] at hpanic
  cases hpanic

theorem pass_breaksOnly (r : Resolver σ) (g : Registry σ) (inner : Inner σ)
    (fallback : Option String) (text : String) (context : Context) :
    ((r.over g).pass inner fallback text context).BreaksOnly g.BreaksWith := by
  unfold pass
  split
  · exact .pure text
  · rename_i tokens htokens
    exact (settleEach_breaksOnly r g inner context _ _).bind fun answers =>
      render_breaksOnly _ _ fallback answers htokens

theorem resolveInOrder_breaksOnly (p : Panic → Prop) (order : List Token → List Token)
    (r : Resolver σ) (text : String) (context : Context) :
    (r.resolveInOrder order text context).BreaksOnly p := by
  unfold resolveInOrder
  split
  · exact .pure text
  · rename_i tokens htokens
    exact (runTasks_breaksOnly p r r.inner context _ _).bind fun answers =>
      render_breaksOnly p r r.fallback answers htokens

end Resolver

/-- A question that has no reply has been lost to the locator. -/
theorem Query.perform_breaksOnly (r : Resolver σ) (g : Registry σ) (query : Query) :
    (query.perform (r.over g)).BreaksOnly g.BreaksWith := by
  cases query with
  | resolve text context =>
      exact (Resolver.pass_breaksOnly r g _ _ text context).bind fun _ => .pure _
  | resolveWithFallback text context fallback =>
      exact (Resolver.pass_breaksOnly r g _ fallback text context).bind fun _ => .pure _
  | resolveByTasks schedule text context =>
      exact (Resolver.resolveInOrder_breaksOnly _ _ _ text context).bind fun _ => .pure _
  | resolvePlaceholder text context =>
      refine Exec.BreaksOnly.bind ?_ fun _ => .pure _
      unfold Resolver.resolvePlaceholder
      split
      · exact Resolver.settle_breaksOnly r g _ _ context
      · exact .pure _
  | resolveToken token parsed context =>
      exact (Resolver.settle_breaksOnly r g _ token context).bind fun _ => .pure _

/-! ## Failing and declining -/

/-- Handlers about which the same is said, and which have the same values for the same requests.
Where there is no value, one may fail or panic and the other decline. -/
structure Handler.Alike (h h' : Handler σ) : Prop where
  said : h' = { h with run := h'.run }
  value : ∀ request host, (h'.run request host).1.value? = (h.run request host).1.value?
  host : ∀ request host, (h'.run request host).2 = (h.run request host).2

/-- Custom resolvers that do the same and come to the same value, or to none. -/
inductive Step.Alike : Step σ → Step σ → Prop
  | finish {outcome outcome' : Outcome} (host : σ) : outcome'.value? = outcome.value? →
      Alike (.finish outcome host) (.finish outcome' host)
  | resolve (text : String) (context : Context) (host : σ) {goOn goOn' : String → σ → Step σ} :
      (∀ resolved host, Alike (goOn resolved host) (goOn' resolved host)) →
      Alike (.resolve text context host goOn) (.resolve text context host goOn')
  | unregister (expansion : String) (host : σ) {goOn goOn' : Bool → σ → Step σ} :
      (∀ existed host, Alike (goOn existed host) (goOn' existed host)) →
      Alike (.unregister expansion host goOn) (.unregister expansion host goOn')

def Custom.Alike (custom custom' : Custom σ) : Prop :=
  ∀ context identifier host,
    (custom context identifier host).Alike (custom' context identifier host)

/-- Registries that differ in nothing but how their handlers go without a value. -/
structure Registry.Alike (g g' : Registry σ) : Prop where
  choose : ∀ expansion identifier, Option.Rel (fun c c' => c.1.Alike c'.1 ∧ c'.2 = c.2)
    (g.choose expansion identifier) (g'.choose expansion identifier)
  defaultTtl : g'.defaultTtl = g.defaultTtl
  locator : g'.locator = g.locator

/-- States that differ in nothing but how their custom resolvers go without a value. -/
structure State.Alike (s s' : State σ) : Prop where
  customs : ∀ name, Option.Rel Custom.Alike (s.customs.find? name) (s'.customs.find? name)
  cache : s'.cache = s.cache
  host : s'.host = s.host

def Event.isFailure : Event → Bool
  | failed _ => true
  | _ => false

def heard (events : List Event) : List Event := events.filter fun e => !e.isFailure

@[simp] theorem heard_append (first second : List Event) :
    heard (first ++ second) = heard first ++ heard second :=
  List.filter_append ..

/-- Results that are related, or the same panic; states that are alike; and the same events but for
failures. -/
inductive Report.Alike (R : α → β → Prop) :
    Report (State σ) α → Report (State σ) β → Prop
  | ok {a : α} {b : β} {s s' : State σ} {events events' : List Event} : R a b → s.Alike s' →
      heard events' = heard events → Alike R ⟨.ok a, s, events⟩ ⟨.ok b, s', events'⟩
  | error (p : Panic) {s s' : State σ} {events events' : List Event} : s.Alike s' →
      heard events' = heard events → Alike R ⟨.error p, s, events⟩ ⟨.error p, s', events'⟩

/-- Work that comes to the same in states that are alike. -/
def Exec.Alike (R : α → β → Prop) (x : Exec (State σ) α) (y : Exec (State σ) β) : Prop :=
  ∀ s s', s.Alike s' → (x s).Alike R (y s')

namespace Exec.Alike

variable {R : α → β → Prop} {Q : γ → δ → Prop}

theorem pure {a : α} {b : β} (h : R a b) :
    Alike R (Pure.pure a : Exec (State σ) α) (Pure.pure b) :=
  fun _ _ hs => .ok h hs rfl

theorem panic (p : Panic) : Alike R (Exec.panic p : Exec (State σ) α) (Exec.panic p) :=
  fun _ _ hs => .error p hs rfl

theorem state : Alike State.Alike (Exec.state : Exec (State σ) (State σ)) Exec.state :=
  fun _ _ hs => .ok hs hs rfl

theorem report (event : Event) :
    Alike Eq (Exec.report event : Exec (State σ) Unit) (Exec.report event) :=
  fun _ _ hs => .ok rfl hs rfl

theorem change {f : State σ → State σ} (hf : ∀ s s', s.Alike s' → (f s).Alike (f s')) :
    Alike Eq (Exec.change f) (Exec.change f) :=
  fun s s' hs => .ok rfl (hf s s' hs) rfl

theorem update {f : State σ → α × State σ}
    (hf : ∀ s s', s.Alike s' → (f s).1 = (f s').1 ∧ (f s).2.Alike (f s').2) :
    Alike Eq (Exec.update f) (Exec.update f) :=
  fun s s' hs => .ok (hf s s' hs).1 (hf s s' hs).2 rfl

theorem bind {x : Exec (State σ) α} {y : Exec (State σ) β} {k : α → Exec (State σ) γ}
    {l : β → Exec (State σ) δ} (hx : Alike R x y) (hk : ∀ a b, R a b → Alike Q (k a) (l b)) :
    Alike Q (x >>= k) (y >>= l) := by
  intro s s' hs
  have hfirst := hx s s' hs
  rw [bind_apply, bind_apply]
  generalize x s = first at hfirst
  generalize y s' = first' at hfirst
  cases hfirst with
  | error p hu hevents => exact .error p hu hevents
  | @ok a b u u' events events' hab hu hevents =>
      have hsecond := hk a b hab u u' hu
      simp only [Report.after]
      generalize k a u = second at hsecond
      generalize l b u' = second' at hsecond
      cases hsecond with
      | error p hv hlater => exact .error p hv (by simp [hevents, hlater])
      | ok hcd hv hlater => exact .ok hcd hv (by simp [hevents, hlater])

theorem next {x y : Exec (State σ) α} {k : α → Exec (State σ) γ} {l : α → Exec (State σ) δ}
    (hx : Alike Eq x y) (hk : ∀ a, Alike Q (k a) (l a)) : Alike Q (x >>= k) (y >>= l) := by
  apply hx.bind
  intro a b hab
  subst hab
  exact hk a

theorem attempt {x : Exec (State σ) α} {y : Exec (State σ) β} (hx : Alike R x y) :
    Alike (Option.Rel R) (Exec.attempt x) (Exec.attempt y) := by
  intro s s' hs
  have hfirst := hx s s' hs
  unfold Exec.attempt
  generalize x s = first at hfirst
  generalize y s' = first' at hfirst
  cases hfirst with
  | error p hu hevents => exact .ok .none hu hevents
  | ok hab hu hevents => exact .ok (.some hab) hu hevents

theorem caught {x y : Exec (State σ) α} (hx : Alike Eq x y) :
    Alike Eq (Exec.attempt x) (Exec.attempt y) := by
  intro s s' hs
  have hboth := hx.attempt s s' hs
  generalize Exec.attempt x s = first at hboth
  generalize Exec.attempt y s' = second at hboth
  cases hboth with
  | error p hu hevents => exact .error p hu hevents
  | ok hsame hu hevents =>
      cases hsame with
      | none => exact .ok rfl hu hevents
      | some hsame => exact .ok (congrArg some hsame) hu hevents

theorem settled (token : Token) (context : Context) (origin : Origin) (answer : Answer) :
    Alike Eq (Placeholder.settled token context origin answer : Exec (State σ) Answer)
      (Placeholder.settled token context origin answer) :=
  (report _).next fun _ => .pure rfl

end Exec.Alike

/-! ## Registries that are alike -/

theorem heard_faults (outcome : Outcome) (expansion : String) :
    heard (outcome.faults expansion) = [] := by
  cases outcome <;> rfl

theorem Handler.Alike.call {h h' : Handler σ} (halike : h.Alike h') (request : Request)
    (host : σ) : (h'.call request host).result = (h.call request host).result ∧
      (h'.call request host).state = (h.call request host).state ∧
      heard (h'.call request host).events = heard (h.call request host).events := by
  have hheard : ∀ outcome : Outcome,
      heard (.handlerCalled request :: outcome.faults request.expansion) =
        [.handlerCalled request] := by
    intro outcome
    exact congrArg _ (heard_faults outcome request.expansion)
  rw [Handler.call_apply, Handler.call_apply, halike.value, halike.host, hheard, hheard]
  exact ⟨rfl, rfl, rfl⟩

namespace Registry.Alike

variable {g g' : Registry σ} (halike : g.Alike g')

include halike

theorem ttl (expansion identifier : String) :
    g'.ttl expansion identifier = g.ttl expansion identifier := by
  have hchoose := halike.choose expansion identifier
  unfold Registry.ttl
  generalize g.choose expansion identifier = chosen at hchoose
  generalize g'.choose expansion identifier = chosen' at hchoose
  cases hchoose with
  | none => exact halike.defaultTtl
  | some hboth =>
      obtain ⟨hh, -⟩ := hboth
      simp only
      rw [hh.said, halike.defaultTtl]

theorem isRelational (expansion identifier : String) :
    g'.isRelational expansion identifier = g.isRelational expansion identifier := by
  have hchoose := halike.choose expansion identifier
  unfold Registry.isRelational
  generalize g.choose expansion identifier = chosen at hchoose
  generalize g'.choose expansion identifier = chosen' at hchoose
  cases hchoose with
  | none => rfl
  | some hboth =>
      obtain ⟨hh, -⟩ := hboth
      simp only
      rw [hh.said]

theorem admits {h h' : Handler σ} (hh : h.Alike h') (context : Context) :
    g'.admits h' context = g.admits h context := by
  rw [hh.said]
  unfold Registry.admits
  rw [halike.locator]
  rfl

theorem answer (expansion identifier : String) (context : Context) (host : σ) :
    (g'.answer expansion identifier context host).result =
        (g.answer expansion identifier context host).result ∧
      (g'.answer expansion identifier context host).state =
        (g.answer expansion identifier context host).state ∧
      heard (g'.answer expansion identifier context host).events =
        heard (g.answer expansion identifier context host).events := by
  have hchoose := halike.choose expansion identifier
  unfold Registry.answer
  generalize g.choose expansion identifier = chosen at hchoose
  generalize g'.choose expansion identifier = chosen' at hchoose
  cases hchoose with
  | none => exact ⟨rfl, rfl, rfl⟩
  | @some c c' hboth =>
      obtain ⟨hh, harg⟩ := hboth
      have he : c'.1.expansion = c.1.expansion := by rw [hh.said]
      simp only [halike.admits hh, Exec.bind_apply, he, harg]
      rcases g.admits c.1 context host with ⟨p | admitted, host', events⟩
      · exact ⟨rfl, rfl, rfl⟩
      · cases admitted with
        | false => exact ⟨rfl, rfl, rfl⟩
        | true =>
            obtain ⟨hresult, hstate, hevents⟩ := hh.call
              ⟨c.1.expansion, identifier, c.2, context⟩ host'
            exact ⟨hresult, hstate, by simpa [Report.after] using hevents⟩

end Registry.Alike

/-! ## States that are alike -/

namespace State.Alike

variable {s s' : State σ} (hs : s.Alike s')

include hs

theorem withHost (host : σ) : State.Alike { s with host } { s' with host } :=
  ⟨hs.customs, hs.cache, rfl⟩

theorem keep (key : Key) (text : String) (ttl : Ttl) :
    (s.keep key text ttl).Alike (s'.keep key text ttl) :=
  ⟨hs.customs, by simp [State.keep, hs.cache], hs.host⟩

theorem fetch (key : Key) :
    (s.fetch key).1 = (s'.fetch key).1 ∧ (s.fetch key).2.Alike (s'.fetch key).2 := by
  unfold State.fetch
  rw [hs.cache]
  cases s.cache with
  | none => exact ⟨rfl, hs⟩
  | some cache => exact ⟨rfl, hs.customs, rfl, hs.host⟩

theorem unregisterCustom (expansion : String) :
    (s.unregisterCustom expansion).1 = (s'.unregisterCustom expansion).1 ∧
      (s.unregisterCustom expansion).2.Alike (s'.unregisterCustom expansion).2 := by
  refine ⟨?_, ?_, hs.cache, hs.host⟩
  · change Option.isSome _ = Option.isSome _
    have hname := hs.customs (Text.foldCase expansion)
    generalize s.customs.find? (Text.foldCase expansion) = found at hname
    generalize s'.customs.find? (Text.foldCase expansion) = found' at hname
    cases hname <;> rfl
  · intro name
    change Option.Rel _ ((s.customs.erase _).find? name) ((s'.customs.erase _).find? name)
    rw [Table.find?_erase, Table.find?_erase]
    split_ifs
    · exact .none
    · exact hs.customs name

end State.Alike

/-! ## Work that comes to the same -/

namespace Resolver

/-- Texts come to the same whichever way they are resolved. -/
def InnerAlike (inner inner' : Inner σ) : Prop :=
  ∀ text context, Exec.Alike Eq (inner text context) (inner' text context)

variable {inner inner' : Inner σ}

theorem perform_alike (hinner : InnerAlike inner inner') {step step' : Step σ}
    (halike : step.Alike step') :
    Exec.Alike (fun o o' => o'.value? = o.value?) (step.perform inner) (step'.perform inner') := by
  have hhost : ∀ host : σ, Exec.Alike Eq (Exec.change fun s : State σ => { s with host })
      (Exec.change fun s => { s with host }) :=
    fun host => .change fun _ _ hs => hs.withHost host
  induction halike with
  | finish host hvalue => exact (hhost host).next fun _ => .pure hvalue
  | resolve text context host _ ih =>
      refine (hhost host).next fun _ => (hinner text context).next fun resolved => ?_
      refine Exec.Alike.state.bind fun s s' hs => ?_
      rw [hs.host]
      exact ih resolved s.host
  | unregister expansion host _ ih =>
      refine (hhost host).next fun _ =>
        (Exec.Alike.update fun _ _ hs => hs.unregisterCustom expansion).next fun existed => ?_
      refine Exec.Alike.state.bind fun s s' hs => ?_
      rw [hs.host]
      exact ih existed s.host

theorem customValue_alike (hinner : InnerAlike inner inner') (token : Token) (context : Context) :
    Exec.Alike Eq (customValue inner token context) (customValue inner' token context) := by
  refine Exec.Alike.state.bind fun s s' hs => ?_
  have hcustoms := hs.customs (Text.foldCase token.expansion)
  change Option.Rel _ (s.customs.ofExpansion? token.expansion)
    (s'.customs.ofExpansion? token.expansion) at hcustoms
  generalize s.customs.ofExpansion? token.expansion = found at hcustoms
  generalize s'.customs.ofExpansion? token.expansion = found' at hcustoms
  cases hcustoms with
  | none => exact .pure rfl
  | some halike =>
      rw [hs.host]
      refine (Exec.Alike.report _).next fun _ =>
        (perform_alike hinner (halike context token.identifier s.host)).attempt.bind ?_
      intro outcome outcome' hvalue u u' hu
      cases hvalue with
      | none => exact .ok rfl hu rfl
      | @some o o' hvalue => cases o <;> cases o' <;> cases hvalue <;> exact .ok rfl hu rfl

variable {g g' : Registry σ} (halike : g.Alike g')

include halike

theorem produce_alike (r : Resolver σ) (token : Token) (context : Context) :
    Exec.Alike Eq ((r.over g).produce token context) ((r.over g').produce token context) := by
  have hanswer : Exec.Alike Eq
      (State.onHost (g.answer token.expansion token.identifier context))
      (State.onHost (g'.answer token.expansion token.identifier context)) := by
    intro s s' hs
    obtain ⟨hresult, hstate, hevents⟩ :=
      halike.answer token.expansion token.identifier context s.host
    unfold State.onHost
    rw [hs.host]
    simp only [hresult, hstate]
    cases (g.answer token.expansion token.identifier context s.host).result with
    | error p => exact .error p (hs.withHost _) hevents
    | ok answer => exact .ok rfl (hs.withHost _) hevents
  refine hanswer.next fun answer => ?_
  cases answer with
  | cached | empty => exact .settled _ _ _ _
  | value text =>
      refine Exec.Alike.next ?_ fun _ => .settled _ _ _ _
      change Exec.Alike _ (Exec.change fun s => s.keep _ text (g.ttl _ _))
        (Exec.change fun s => s.keep _ text (g'.ttl _ _))
      rw [halike.ttl]
      exact .change fun _ _ hs => hs.keep _ _ _

theorem lookup_alike (r : Resolver σ) (token : Token) (context : Context) :
    Exec.Alike Eq ((r.over g).lookup token context) ((r.over g').lookup token context) := by
  refine Exec.Alike.state.bind fun s s' hs => ?_
  rw [hs.cache]
  split
  · exact produce_alike halike r token context
  · refine (Exec.Alike.update fun _ _ hu => hu.fetch _).next fun found => ?_
    cases found with
    | some text => exact (Exec.Alike.report _).next fun _ => .settled _ _ _ _
    | none => exact (Exec.Alike.report _).next fun _ => produce_alike halike r token context

theorem lockstep_alike (r : Resolver σ) :
    (r.over g).Lockstep (r.over g') fun x y => Exec.Alike Eq x y where
  said := rfl
  refuses token :=
    congrArg (!token.relational && ·) (halike.isRelational token.expansion token.identifier)
  value _ := .pure rfl
  panic := .panic
  bind := .next
  attempt := .caught
  customValue hinner := customValue_alike hinner
  gate _ _ := .settled _ _ _ _
  custom _ _ _ := .settled _ _ _ _
  refusal _ _ _ := .settled _ _ _ _
  lookup _ := lookup_alike halike r _ _

end Resolver

/-- Whatever is asked comes to the same in spite of failures. -/
theorem Query.perform_alike {g g' : Registry σ} (halike : g.Alike g') (r : Resolver σ)
    (query : Query) : Exec.Alike Eq (query.perform (r.over g)) (query.perform (r.over g')) :=
  (Resolver.lockstep_alike halike r).query query

/-! ## Other handlers in the places of all -/

def Table.mapValues {κ : Type} (f : α → β) (t : Table κ α) : Table κ β where
  entries := t.entries.map fun entry => (entry.1, f entry.2)
  nodup_keys := by
    rw [List.map_map]
    exact t.nodup_keys

theorem Table.find?_mapValues {κ : Type} [DecidableEq κ] (f : α → β) (t : Table κ α) (k : κ) :
    (t.mapValues f).find? k = (t.find? k).map f := by
  simp only [Table.find?, Table.mapValues, List.find?_map, Option.map_map]
  rfl

namespace Family

/-- The family with other handlers in the places of all. -/
def map (f : Handler σ → Handler σ) (family : Family σ) : Family σ where
  exact := family.exact.mapValues f
  leading := family.leading.map fun entry => (entry.1, f entry.2)
  any := family.any.map f

theorem chooseLeading_map (f : Handler σ → Handler σ) (identifier : String)
    (handlers : List (String × Handler σ)) :
    chooseLeading identifier (handlers.map fun entry => (entry.1, f entry.2)) =
      (chooseLeading identifier handlers).map fun chosen => (f chosen.1, chosen.2) := by
  induction handlers with
  | nil => rfl
  | cons entry rest ih =>
      rw [List.map_cons, chooseLeading, chooseLeading]
      cases beyond? entry.1 identifier with
      | none => exact ih
      | some argument => rfl

theorem choose_map (f : Handler σ → Handler σ) (family : Family σ) (identifier : String) :
    (family.map f).choose identifier =
      (family.choose identifier).map fun chosen => (f chosen.1, chosen.2) := by
  unfold choose map
  rw [Table.find?_mapValues, chooseLeading_map]
  cases family.exact.find? identifier with
  | some h => rfl
  | none =>
      cases chooseLeading identifier family.leading with
      | some chosen => rfl
      | none => cases family.any <;> rfl

end Family

namespace Registry

/-- The registry with other handlers in the places of all. -/
def map (f : Handler σ → Handler σ) (g : Registry σ) : Registry σ :=
  { g with families := g.families.mapValues (Family.map f) }

theorem choose_map (f : Handler σ → Handler σ) (g : Registry σ) (expansion identifier : String) :
    (g.map f).choose expansion identifier =
      (g.choose expansion identifier).map fun chosen => (f chosen.1, chosen.2) := by
  unfold choose map
  rw [Table.find?_mapValues]
  cases g.families.find? (Text.foldCase expansion) with
  | none => rfl
  | some family => exact family.choose_map f identifier

end Registry

/-! ## Declining instead of failing -/

/-- The outcome with declining in place of failing. -/
def Outcome.orDecline (outcome : Outcome) : Outcome :=
  match outcome.value? with
  | some text => .value text
  | none => .decline

@[simp] theorem Outcome.value?_orDecline (outcome : Outcome) :
    outcome.orDecline.value? = outcome.value? := by
  cases outcome <;> rfl

def Handler.declining (h : Handler σ) : Handler σ :=
  { h with run := fun request host =>
      ((h.run request host).1.orDecline, (h.run request host).2) }

theorem Handler.alike_declining (h : Handler σ) : h.Alike h.declining :=
  ⟨rfl, fun _ _ => Outcome.value?_orDecline _, fun _ _ => rfl⟩

/-- The registry whose handlers decline where those of this one fail. -/
def Registry.declining (g : Registry σ) : Registry σ := g.map Handler.declining

theorem Registry.alike_declining (g : Registry σ) : g.Alike g.declining := by
  refine ⟨?_, rfl, rfl⟩
  intro expansion identifier
  rw [declining, choose_map]
  cases g.choose expansion identifier with
  | none => exact .none
  | some chosen => exact .some ⟨chosen.1.alike_declining, rfl⟩

def Step.declining : Step σ → Step σ
  | finish outcome host => finish outcome.orDecline host
  | resolve text context host goOn =>
    resolve text context host fun resolved host => (goOn resolved host).declining
  | unregister expansion host goOn =>
    unregister expansion host fun existed host => (goOn existed host).declining

theorem Step.alike_declining (step : Step σ) : step.Alike step.declining := by
  induction step with
  | finish outcome host => exact .finish host outcome.value?_orDecline
  | resolve text context host goOn ih => exact .resolve text context host ih
  | unregister expansion host goOn ih => exact .unregister expansion host ih

/-- The state with custom resolvers that decline where those of this one fail. -/
def State.declining (s : State σ) : State σ :=
  { s with customs := s.customs.mapValues fun custom context identifier host =>
      (custom context identifier host).declining }

theorem State.alike_declining (s : State σ) : s.Alike s.declining := by
  refine ⟨?_, rfl, rfl⟩
  intro name
  unfold declining
  rw [Table.find?_mapValues]
  cases s.customs.find? name with
  | none => exact .none
  | some custom => exact .some fun context identifier host => Step.alike_declining _

/-- To fail is to decline, for whoever does not hear of failures. -/
theorem Query.perform_declining (query : Query) (r : Resolver σ) (g : Registry σ) (s : State σ) :
    (query.perform (r.over g) s).Alike Eq (query.perform (r.over g.declining) s.declining) :=
  query.perform_alike g.alike_declining r s _ s.alike_declining

/-! ## Failures do not spread -/

/-- What failures of foreign code do to a question. -/
structure Query.Contains (query : Query) (r : Resolver σ) (g : Registry σ) (s : State σ) :
    Prop where
  /-- A question is replied to unless the locator breaks down. -/
  escapes : ∀ p, (query.perform (r.over g) s).result = .error p → g.BreaksWith p
  /-- A text whose tokens are settled by tasks is replied to in any case. -/
  tasks : ∀ schedule text context, query = .resolveByTasks schedule text context →
    ∃ reply, (query.perform (r.over g) s).result = .ok reply
  /-- If handlers and custom resolvers declined wherever they fail or panic, the question would come
  to the same reply, with the same single resolutions, and leave the same behind. -/
  declines : ∀ g' s', g.Alike g' → s.Alike s' →
    (query.perform (r.over g) s).Alike Eq (query.perform (r.over g') s')
  /-- A token has no value if the handler that is called for it fails or panics. -/
  empties : ∀ before request expansion after, (query.perform (r.over g) s).events =
      before ++ .handlerCalled request :: .failed expansion :: after →
    ∃ token h rest, after = .settled token request.context .nothing .empty :: rest ∧
      (r.over g).CallsFor g token h request

/-- Failures of handlers and custom resolvers do not spread, whatever is asked and in whatever
state. Those of a locator do, unless the tokens are settled by tasks. -/
theorem Query.failures_contained (query : Query) (r : Resolver σ) (g : Registry σ) (s : State σ) :
    query.Contains r g s := by
  constructor
  case escapes => exact query.perform_breaksOnly r g s
  case tasks =>
    intro schedule text context hquery
    subst hquery
    have hnever : (Query.perform (r.over g) (.resolveByTasks schedule text context)).BreaksOnly
        fun _ => False :=
      (Resolver.resolveInOrder_breaksOnly _ _ _ text context).bind fun _ => .pure _
    cases hresult : (Query.perform (r.over g) (.resolveByTasks schedule text context) s).result with
    | ok reply => exact ⟨reply, rfl⟩
    | error p => exact (hnever s p hresult).elim
  case declines => exact fun g' s' hg hs => query.perform_alike hg r s s' hs
  case empties =>
    intro before request expansion after he
    have hmoves : (r.over g).Moves g s _ _ := query.perform_byMoves rfl s
    cases hmoves.attentive before request _ he with
    | @failed token h rest hcalls => exact ⟨token, h, rest, rfl, hcalls⟩

/-- A handler for a viewer near the target, another one for all, and a locator that breaks down. -/
def lostLocator : Registry Unit where
  families := (Table.empty.insert "w"
    { Family.empty with any := some (Handler.constant "w" .second "near").inSameWorld }).insert "a"
    { Family.empty with any := some (.constant "a" .second "ok") }
  defaultTtl := .standard
  locator := some fun _ host => (.panic "locator", host)

/-- Breakdowns of locators escape: a token that has nothing to do with places is lost as well. -/
theorem Query.locator_escapes :
    ¬ ∀ (query : Query) (r : Resolver Unit) (g : Registry Unit) (s : State Unit),
      ∃ reply, (query.perform (r.over g) s).result = .ok reply := by
  intro hclaim
  obtain ⟨reply, hreply⟩ := hclaim (.resolve "%a_b% %rel_w_x%" (.ofRelation ⟨1⟩ ⟨2⟩)) {} lostLocator
    (.initial none ())
  have hlost : (Query.perform (Resolver.over {} lostLocator)
      (.resolve "%a_b% %rel_w_x%" (.ofRelation ⟨1⟩ ⟨2⟩)) (.initial none ())).result =
      .error ⟨"locator"⟩ := by
    with_unfolding_all rfl
  rw [hlost] at hreply
  cases hreply

end Placeholder
