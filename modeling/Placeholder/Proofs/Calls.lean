import Placeholder.Proofs.Passes
import Placeholder.Proofs.Tokens

/-!
# What clients do

Clients ask a resolver for texts and for single answers, change its custom resolvers, drop entries
of its cache and move the clock of the cache. A run is any sequence of such calls. It has the
replies, the state that is left, and a history of what the cache can have noticed.
-/
namespace Placeholder

variable {σ : Type}

/-- An order in which tasks run, each of them once. -/
structure Schedule where
  order : List Token → List Token
  perm : ∀ tokens, (order tokens).Perm tokens

/-- What a resolver is asked. Only tokens that were read can be asked for by themselves, and the tasks
of a text run one after another here. -/
inductive Query where
  | resolve (text : String) (context : Context)
  | resolveWithFallback (text : String) (context : Context) (fallback : Option String)
  | resolveByTasks (schedule : Schedule) (text : String) (context : Context)
  | resolvePlaceholder (placeholder : String) (context : Context)
  | resolveToken (token : Token) (parsed : token.Parsed) (context : Context)

inductive Reply where
  | text (text : String)
  | answer (answer : Answer)
  | flag (flag : Bool)
  | done
  deriving DecidableEq, Repr

def Query.context : Query → Context
  | resolve _ context | resolveWithFallback _ context _ | resolveByTasks _ _ context
  | resolvePlaceholder _ context | resolveToken _ _ context => context

def Query.isSingle : Query → Bool
  | resolvePlaceholder _ _ | resolveToken _ _ _ => true
  | resolve _ _ | resolveWithFallback _ _ _ | resolveByTasks _ _ _ => false

def Query.perform (r : Resolver σ) : Query → Exec (State σ) Reply
  | resolve text context => do return .text (← r.resolve text context)
  | resolveWithFallback text context fallback => do
    return .text (← r.resolveWithFallback text context fallback)
  | resolveByTasks schedule text context => do
    return .text (← r.resolveInOrder schedule.order text context)
  | resolvePlaceholder placeholder context => do
    return .answer (← r.resolvePlaceholder placeholder context)
  | resolveToken token _ context => do return .answer (← r.resolveToken token context)

/-- Whatever a client can do. -/
inductive Call (σ : Type) where
  | ask (query : Query)
  | register (expansion : String) (custom : Custom σ)
  | unregister (expansion : String)
  | invalidate (key : Key)
  | invalidateSubject (whom : Subject)
  | clear
  | advance (span : Duration)
  | setClock (reading : UInt64)

namespace State

/-- Does something to the cache, if there is one. -/
def onCache (s : State σ) (f : Cache → Cache) : State σ := { s with cache := s.cache.map f }

/-- No custom resolver yet, and a cache that keeps nothing yet. -/
def withEmptyCache (capacity : UInt64) (clock : Clock) (host : σ) : State σ :=
  initial (some (.empty capacity clock)) host

/-- The reading of the clock by which entries are dated. -/
def now (s : State σ) : UInt64 := (s.cache.map fun cache => cache.clock.now).getD 0

end State

namespace Call

def perform (r : Resolver σ) : Call σ → Exec (State σ) Reply
  | ask query => query.perform r
  | register expansion custom => do
    return .flag (← Exec.update fun s => s.registerCustom expansion custom)
  | unregister expansion => do
    return .flag (← Exec.update fun s => s.unregisterCustom expansion)
  | invalidate key => do
    Exec.change fun s => s.onCache fun cache => cache.invalidate key
    return .done
  | invalidateSubject whom => do
    Exec.change fun s => s.onCache fun cache => cache.invalidateSubject whom
    return .done
  | clear => do
    Exec.change fun s => s.onCache Cache.clear
    return .done
  | advance span => do
    Exec.change fun s => s.onCache fun cache => cache.advance span
    return .done
  | setClock reading => do
    Exec.change fun s => s.onCache fun cache => cache.setClock reading
    return .done

/-- The custom resolver that comes into use, if one does, comes back at once. -/
def Direct : Call σ → Prop
  | register _ custom => custom.Direct
  | _ => True

end Call

/-- What the cache can have noticed. -/
inductive Happening where
  /-- A single resolution ended at a reading of the clock. -/
  | settled (resolution : Settled) (now : UInt64)
  | invalidated (key : Key)
  | forgotten (whom : Subject)
  | cleared

/-- What the cache can have noticed of a call that was made at a reading of the clock. -/
def Call.happenings (now : UInt64) (events : List Event) : Call σ → List Happening
  | ask _ => (settlements events).map (Happening.settled · now)
  | invalidate key => [.invalidated key]
  | invalidateSubject whom => [.forgotten whom]
  | clear => [.cleared]
  | register _ _ | unregister _ | advance _ | setClock _ => []

/-- What a sequence of calls leaves behind. -/
structure Run (σ : Type) where
  replies : List (Except Panic Reply)
  history : List Happening
  state : State σ

namespace Resolver

/-- Makes calls one after another. A call that breaks down does not keep clients from the next. -/
def run (r : Resolver σ) : List (Call σ) → State σ → Run σ
  | [], s => ⟨[], [], s⟩
  | call :: rest, s =>
    let report := call.perform r s
    let later := r.run rest report.state
    ⟨report.result :: later.replies, call.happenings s.now report.events ++ later.history,
      later.state⟩

/-- No call puts the clock back. -/
def Forward (r : Resolver σ) : List (Call σ) → State σ → Prop
  | [], _ => True
  | call :: rest, s =>
    let next := (call.perform r s).state
    s.now.toNat ≤ next.now.toNat ∧ r.Forward rest next

end Resolver

/-! ## Replies to questions -/

theorem Resolver.parsed_of_mem_onePerKey {delimiter : Delimiter} {text : String} {t : Token}
    (ht : t ∈ onePerKey (delimiter.tokens text).reverse) : t.Parsed :=
  ⟨delimiter, text, .inl (List.mem_reverse.mp (onePerKey_subset ht))⟩

namespace Query

/-- How the reply to a question comes of the single resolutions that were made for it. -/
inductive Gives (r : Resolver σ) : Query → List Settled → Reply → Prop
  | resolve {text : String} {context : Context} {trace : List Settled} {out : String} :
      trace.map Settled.token = Resolver.onePerKey (r.delimiter.tokens text).reverse →
      r.Yields r.fallback text trace out → Gives r (.resolve text context) trace (.text out)
  | withFallback {text : String} {context : Context} {fallback : Option String}
      {trace : List Settled} {out : String} :
      trace.map Settled.token = Resolver.onePerKey (r.delimiter.tokens text).reverse →
      r.Yields fallback text trace out →
      Gives r (.resolveWithFallback text context fallback) trace (.text out)
  | byTasks {schedule : Schedule} {text : String} {context : Context} {trace : List Settled}
      {out : String} :
      trace.map Settled.token =
        schedule.order (Resolver.onePerKey (r.delimiter.tokens text).reverse) →
      r.Yields r.fallback text trace out →
      Gives r (.resolveByTasks schedule text context) trace (.text out)
  | unread {text : String} {context : Context} : r.delimiter.token? text = none →
      Gives r (.resolvePlaceholder text context) [] (.answer .empty)
  | placeholder {text : String} {context : Context} {x : Settled} :
      r.delimiter.token? text = some x.token →
      Gives r (.resolvePlaceholder text context) [x] (.answer x.answer)
  | token {token : Token} {parsed : token.Parsed} {context : Context} {x : Settled} :
      x.token = token → Gives r (.resolveToken token parsed context) [x] (.answer x.answer)

variable {r : Resolver σ}

theorem Gives.parsed {query : Query} {trace : List Settled} {reply : Reply}
    (h : query.Gives r trace reply) : ∀ x ∈ trace, x.token.Parsed := by
  intro x hx
  cases h with
  | resolve htokens => exact Resolver.parsed_of_mem_onePerKey (htokens ▸ List.mem_map_of_mem hx)
  | withFallback htokens =>
      exact Resolver.parsed_of_mem_onePerKey (htokens ▸ List.mem_map_of_mem hx)
  | @byTasks schedule _ _ _ _ htokens =>
      apply Resolver.parsed_of_mem_onePerKey
      exact (schedule.perm _).mem_iff.mp (htokens ▸ List.mem_map_of_mem hx)
  | unread => cases hx
  | @placeholder text _ y ht =>
      rw [List.mem_singleton.mp hx]
      exact ⟨r.delimiter, text, .inr ht⟩
  | @token _ parsed _ y ht =>
      rw [List.mem_singleton.mp hx]
      exact ht ▸ parsed

theorem resolveToken_traces (hr : r.Returns) {s : State σ} (hs : Customs.Direct s.customs)
    (token : Token) (context : Context) :
    ∃ x s' events, r.resolveToken token context s = ⟨.ok x.answer, s', events⟩ ∧
      x.token = token ∧ settlements events = [x] ∧ r.Trace context s [x] s' := by
  obtain ⟨events, origin, answer, s', hrun, hquiet, hsettles⟩ :=
    Resolver.settle_settles hr hs r.inner token context
  refine ⟨⟨token, context, origin, answer⟩, s', _, hrun, rfl, ?_, .singleton hsettles⟩
  rw [settlements_append, hquiet]
  rfl

/-- Every question is replied to. -/
theorem perform_traces (hr : r.Returns) {s : State σ} (hs : Customs.Direct s.customs)
    (query : Query) :
    ∃ reply s' events trace, query.perform r s = ⟨.ok reply, s', events⟩ ∧
      settlements events = trace ∧ r.Trace query.context s trace s' ∧
      query.Gives r trace reply := by
  cases query with
  | resolve text context =>
      obtain ⟨out, s', events, trace, hrun, he, htrace, htokens, hyields⟩ :=
        Resolver.pass_traces hr hs r.inner r.fallback text context
      refine ⟨.text out, s', events, trace, ?_, he, htrace, .resolve htokens hyields⟩
      simp [perform, Resolver.resolve, Resolver.resolveWithFallback, Exec.bind_apply, hrun,
        Report.after]
  | resolveWithFallback text context fallback =>
      obtain ⟨out, s', events, trace, hrun, he, htrace, htokens, hyields⟩ :=
        Resolver.pass_traces hr hs r.inner fallback text context
      refine ⟨.text out, s', events, trace, ?_, he, htrace, .withFallback htokens hyields⟩
      simp [perform, Resolver.resolveWithFallback, Exec.bind_apply, hrun, Report.after]
  | resolveByTasks schedule text context =>
      obtain ⟨out, s', events, trace, hrun, he, htrace, htokens, hyields⟩ :=
        Resolver.resolveInOrder_traces hr hs schedule.perm text context
      refine ⟨.text out, s', events, trace, ?_, he, htrace, .byTasks htokens hyields⟩
      simp [perform, Exec.bind_apply, hrun, Report.after]
  | resolvePlaceholder text context =>
      cases ht : r.delimiter.token? text with
      | none =>
          refine ⟨.answer .empty, s, [], [], ?_, rfl, .nil s, .unread ht⟩
          simp [perform, Resolver.resolvePlaceholder, ht, Exec.bind_apply]
      | some token =>
          obtain ⟨x, s', events, hrun, rfl, he, htrace⟩ := resolveToken_traces hr hs token context
          refine ⟨.answer x.answer, s', events, [x], ?_, he, htrace, .placeholder ht⟩
          simp [perform, Resolver.resolvePlaceholder, ht, Exec.bind_apply, hrun, Report.after]
  | resolveToken token parsed context =>
      obtain ⟨x, s', events, hrun, rfl, he, htrace⟩ := resolveToken_traces hr hs token context
      refine ⟨.answer x.answer, s', events, [x], ?_, he, htrace, .token rfl⟩
      simp [perform, Exec.bind_apply, hrun, Report.after]

theorem perform_single {query : Query} (r : Resolver σ) (h : query.isSingle = true) :
    query.perform r = pure (.answer .empty) ∨ ∃ token, query.perform r =
      r.settle r.inner token query.context >>= fun answer => pure (.answer answer) := by
  cases query with
  | resolve | resolveWithFallback | resolveByTasks => cases h
  | resolveToken token parsed context => exact .inr ⟨token, rfl⟩
  | resolvePlaceholder placeholder context =>
      simp only [perform, Resolver.resolvePlaceholder]
      cases r.delimiter.token? placeholder with
      | none => exact .inl rfl
      | some token => exact .inr ⟨token, rfl⟩

/-- Whatever foreign code does, the reply to a question for a single token is the answer that was
told of last, unless the text is no token. -/
theorem answer_told {query : Query} (r : Resolver σ) (h : query.isSingle = true) {s : State σ}
    {reply : Reply} (hreply : (query.perform r s).result = .ok reply) :
    query.perform r s = ⟨.ok (.answer .empty), s, []⟩ ∨ ∃ token origin answer,
      reply = .answer answer ∧ (query.perform r s).events.getLast? =
        some (.settled token query.context origin answer) := by
  rcases perform_single r h with hperform | ⟨token, hperform⟩
  · exact .inl (congrFun hperform s)
  · rw [hperform, Exec.bind_pure_apply] at hreply ⊢
    cases hresult : (r.settle r.inner token query.context s).result with
    | error p => simp [hresult, Except.map] at hreply
    | ok answer =>
        obtain ⟨origin, -, hlast⟩ := r.settle_tells r.inner token query.context s answer hresult
        refine .inr ⟨token, origin, answer, ?_, hlast⟩
        simpa [hresult, Except.map] using hreply.symm

end Query

/-! ## Custom resolvers in use -/

theorem Customs.forall_empty {p : Custom σ → Prop} :
    ∀ name custom, (Table.empty : Customs σ).find? name = some custom → p custom := by
  intro name custom hfind
  cases hfind

theorem Customs.forall_register {customs : Customs σ} {p : Custom σ → Prop}
    (hs : ∀ name custom, customs.find? name = some custom → p custom) {custom : Custom σ}
    (h : p custom) (expansion : String) :
    ∀ name found, (customs.register expansion custom).2.find? name = some found → p found := by
  intro name found hfound
  simp only [register, Table.find?_insert] at hfound
  split_ifs at hfound
  · exact Option.some.inj hfound ▸ h
  · exact hs name found hfound

theorem Customs.forall_unregister {customs : Customs σ} {p : Custom σ → Prop}
    (hs : ∀ name custom, customs.find? name = some custom → p custom) (expansion : String) :
    ∀ name found, (customs.unregister expansion).2.find? name = some found → p found := by
  intro name found hfound
  simp only [unregister, Table.find?_erase] at hfound
  split_ifs at hfound
  exact hs name found hfound

theorem Call.Direct.perform {r : Resolver σ} (hr : r.Returns) {s : State σ} {call : Call σ}
    (hcall : call.Direct) (hs : Customs.Direct s.customs) :
    Customs.Direct (call.perform r s).state.customs := by
  cases call with
  | ask query =>
      obtain ⟨reply, s', events, trace, hrun, -, htrace, -⟩ := query.perform_traces hr hs
      simp only [Call.perform, hrun]
      exact htrace.customs_eq ▸ hs
  | register expansion custom => exact Customs.forall_register hs hcall expansion
  | unregister expansion => exact Customs.forall_unregister hs expansion
  | invalidate | invalidateSubject | clear | advance | setClock => exact hs

end Placeholder
