import Placeholder.Proofs.Confinement
import Placeholder.Proofs.Locality
import Placeholder.Proofs.Overriding

/-!
# Custom resolvers come first

A custom resolver that has a value settles the token: neither the cache nor a handler has anything
to do with it. One that has none is as good as no custom resolver at all. So whatever comes into a
cache was made by the source, and tokens that custom resolvers have answered can be left out of a
run without a trace, as long as custom resolvers keep away from what handlers look at.
-/
namespace Placeholder

variable {σ τ : Type}

namespace Resolver

variable {r : Resolver σ} {inner : Inner σ} {token : Token} {context : Context}
  {s u : State σ} {custom : Custom σ} {outcome : Outcome} {host : σ}

/-! ## One resolution -/

/-- What is done about a token when no custom resolver has a value for it. -/
def proceed (r : Resolver σ) (token : Token) (context : Context) : Exec (State σ) Answer :=
  if r.refuses token then settled token context .refusal .empty else r.lookup token context

theorem customValue_of_finish (hfind : s.customs.ofExpansion? token.expansion = some custom)
    (hrun : custom context token.identifier s.host = .finish outcome host) :
    customValue inner token context s = ⟨.ok outcome.value?, { s with host },
      .customCalled token.expansion token.identifier context ::
        outcome.faults token.expansion⟩ := by
  simp only [customValue, Exec.bind_apply, Exec.state_apply, hfind, hrun]
  cases outcome <;> rfl

theorem settle_of_passes (hp : Passes token context) :
    r.settle inner token context = customValue inner token context >>= fun text? =>
      match text? with
      | some text => settled token context .custom (.value text)
      | none => r.proceed token context := by
  unfold settle
  rw [gate_eq_false_iff.mpr hp]
  rfl

theorem settle_of_none (hp : Passes token context)
    (hfind : s.customs.ofExpansion? token.expansion = none) :
    r.settle inner token context s = r.proceed token context s := by
  simp only [settle_of_passes hp, customValue, Exec.bind_apply, Exec.state_apply, hfind,
    Exec.pure_apply, Report.after_nil]

theorem settle_of_value (hp : Passes token context)
    (hfind : s.customs.ofExpansion? token.expansion = some custom) {text : String}
    (hrun : custom context token.identifier s.host = .finish (.value text) host) :
    r.settle inner token context s = ⟨.ok (.value text), { s with host },
      [.customCalled token.expansion token.identifier context,
        .settled token context .custom (.value text)]⟩ := by
  rw [settle_of_passes hp, Exec.bind_apply, customValue_of_finish hfind hrun]
  rfl

theorem settle_of_declined (hp : Passes token context)
    (hfind : s.customs.ofExpansion? token.expansion = some custom)
    (hrun : custom context token.identifier s.host = .finish outcome host)
    (hvalue : outcome.value? = none) :
    r.settle inner token context s = (r.proceed token context { s with host }).after
      (.customCalled token.expansion token.identifier context ::
        outcome.faults token.expansion) := by
  rw [settle_of_passes hp, Exec.bind_apply, customValue_of_finish hfind hrun, hvalue]

theorem proceed_beside {own : σ → τ} {customs customs' : Customs σ} (hr : r.LooksAt own)
    (token : Token) (context : Context) :
    Exec.Same (State.Beside own customs customs') (r.proceed token context)
      (r.proceed token context) := by
  unfold proceed
  split
  · exact .settled _ _ _ _
  · exact lookup_beside hr token context

theorem proceed_withCustoms (r : Resolver σ) (token : Token) (context : Context) (s : State σ)
    (customs : Customs σ) : r.proceed token context s =
      let report := r.proceed token context { s with customs }
      ⟨report.result, { report.state with customs := s.customs }, report.events⟩ := by
  obtain ⟨hresult, hevents, hcustoms, -, hcache, hown⟩ :=
    proceed_beside r.looksAt_id token context s { s with customs } ⟨rfl, rfl, rfl, rfl⟩
  rcases hrun : r.proceed token context s with ⟨result, s', events⟩
  rw [hrun] at hresult hevents hcustoms hcache hown
  simp only [hresult, hevents, hcache]
  obtain ⟨customs', cache, host⟩ := s'
  obtain rfl : customs' = s.customs := hcustoms
  obtain rfl : _ = host := hown
  rfl

/-- What comes of a token for whose expansion there is a custom resolver that comes back at once,
with an outcome and a state that it leaves. -/
structure Overridden (r : Resolver σ) (inner : Inner σ) (token : Token) (context : Context)
    (s : State σ) (outcome : Outcome) (host : σ) : Prop where
  /-- A value is the answer. Whatever cache there is, it stays as it is and does not matter, and
  no handler is called. -/
  value : ∀ text, outcome.value? = some text → ∀ cache,
    r.settle inner token context { s with cache } =
      ⟨.ok (.value text), { s with cache, host },
        [.customCalled token.expansion token.identifier context,
          .settled token context .custom (.value text)]⟩
  /-- Without a value, everything is as it is without a custom resolver for the expansion. That it
  was called, and whether it failed, is told before all else. -/
  otherwise : outcome.value? = none →
    let bare := r.settle inner token context { (s.unregisterCustom token.expansion).2 with host }
    r.settle inner token context s =
      ⟨bare.result, { bare.state with customs := s.customs },
        .customCalled token.expansion token.identifier context ::
          (outcome.faults token.expansion ++ bare.events)⟩

theorem overridden (hp : Passes token context)
    (hfind : s.customs.ofExpansion? token.expansion = some custom)
    (hrun : custom context token.identifier s.host = .finish outcome host) :
    r.Overridden inner token context s outcome host := by
  constructor
  case value =>
    intro text hvalue cache
    obtain rfl := Outcome.value?_eq_some_iff.mp hvalue
    exact settle_of_value (s := { s with cache }) hp hfind hrun
  case otherwise =>
    intro hvalue
    have hnone : (s.unregisterCustom token.expansion).2.customs.ofExpansion? token.expansion =
        none := by
      simp [State.unregisterCustom, Customs.unregister, Customs.ofExpansion?, Table.find?_erase]
    rw [settle_of_declined hp hfind hrun hvalue, r.proceed_withCustoms token context { s with host }
      (s.unregisterCustom token.expansion).2.customs]
    rw [settle_of_none (s := { (s.unregisterCustom token.expansion).2 with host }) hp hnone]
    rfl

end Resolver

/-! ## Where entries come from -/

namespace State

variable {s : State σ} {key k : Key} {entry : Entry}

theorem slot?_keep_cases {value : String} {ttl : Ttl}
    (h : (s.keep key value ttl).slot? k = some entry) :
    s.slot? k = some entry ∨ (k = key ∧ entry.value = value ∧ entry.ttl = ttl) := by
  cases hcache : s.cache with
  | none => simp [slot?, keep, hcache] at h
  | some cache =>
      have hfind : (cache.put key value ttl).entries.find? k = some entry := by
        simpa [slot?, keep, hcache] using h
      by_cases hk : k = key
      · subst hk
        obtain rfl := Cache.find?_put_self hfind
        exact .inr ⟨rfl, rfl, rfl⟩
      · rw [Cache.find?_put_of_ne hk] at hfind
        exact .inl (by simpa [slot?, hcache] using hfind)

theorem slot?_of_fetch (h : (s.fetch key).2.slot? k = some entry) : s.slot? k = some entry := by
  cases hcache : s.cache with
  | none => simpa [fetch, hcache] using h
  | some cache =>
      have hfind : (cache.get key).2.entries.find? k = some entry := by
        simpa [slot?, fetch, hcache] using h
      have hold : cache.entries.find? k = some entry := by
        rcases hget : cache.get key with ⟨_ | text, cache'⟩
        · obtain ⟨-, -, -, hdropped⟩ := Cache.get_none hget
          rw [hget, hdropped] at hfind
          split_ifs at hfind
          exact hfind
        · obtain rfl := Cache.get_hit hget
          rwa [hget] at hfind
      simpa [slot?, hcache] using hold

end State

/-- An entry was made by the source, for a token that has the key, and this was told. -/
structure Resolver.Made (r : Resolver σ) (events : List Event) (key : Key) (entry : Entry)
    (source : Source σ) (token : Token) (context : Context) : Prop where
  source_eq : r.source = some source
  answered : ∃ host, (source.answer token.expansion token.identifier context host).result =
    .ok (.value entry.value)
  key_eq : Key.ofToken token context = key
  ttl_eq : entry.ttl = source.ttl token.expansion token.identifier
  told : Event.settled token context .registry (.value entry.value) ∈ events

/-- Of the entries in the second state, those that were not in the first were made by the source. -/
def Resolver.Keeps (r : Resolver σ) (s : State σ) (events : List Event) (s' : State σ) : Prop :=
  ∀ key entry, s'.slot? key = some entry → s.slot? key = some entry ∨
    ∃ source token context, r.Made events key entry source token context

namespace Resolver

variable {r : Resolver σ} {s u s' : State σ} {events first second : List Event}

theorem Made.mono {key : Key} {entry : Entry} {source : Source σ} {token : Token}
    {context : Context} (h : r.Made first key entry source token context)
    (hsub : first ⊆ events) : r.Made events key entry source token context :=
  { h with told := hsub h.told }

namespace Keeps

theorem of_slot? (h : ∀ key entry, s'.slot? key = some entry → s.slot? key = some entry) :
    r.Keeps s events s' :=
  fun key entry hentry => .inl (h key entry hentry)

theorem of_cache_eq (h : s'.cache = s.cache) : r.Keeps s events s' :=
  of_slot? fun key entry hentry => by rwa [State.slot?, ← h]

theorem trans (h : r.Keeps s first u) (h' : r.Keeps u second s') :
    r.Keeps s (first ++ second) s' := by
  intro key entry hentry
  rcases h' key entry hentry with hentry | ⟨source, token, context, hmade⟩
  · rcases h key entry hentry with hentry | ⟨source, token, context, hmade⟩
    · exact .inl hentry
    · exact .inr ⟨source, token, context, hmade.mono (List.subset_append_left _ _)⟩
  · exact .inr ⟨source, token, context, hmade.mono (List.subset_append_right _ _)⟩

end Keeps

/-- The work keeps nothing but what the source has made. -/
def KeepsMade {α : Type} (r : Resolver σ) (x : Exec (State σ) α) : Prop :=
  ∀ s, r.Keeps s (x s).events (x s).state

namespace KeepsMade

variable {α β : Type} {x : Exec (State σ) α} {f : α → Exec (State σ) β}

theorem of_cache_eq (h : ∀ s, (x s).state.cache = s.cache) : r.KeepsMade x :=
  fun s => .of_cache_eq (h s)

theorem bind (hx : r.KeepsMade x) (hf : ∀ a, r.KeepsMade (f a)) : r.KeepsMade (x >>= f) := by
  intro s
  have hfirst := hx s
  rw [Exec.bind_apply]
  rcases hrun : x s with ⟨_ | a, s', events⟩
  · rwa [hrun] at hfirst
  · rw [hrun] at hfirst
    exact hfirst.trans (hf a s')

theorem attempt (hx : r.KeepsMade x) : r.KeepsMade (Exec.attempt x) := by
  intro s
  have hs := hx s
  unfold Exec.attempt
  rcases hrun : x s with ⟨_ | a, s', events⟩ <;> rwa [hrun] at hs

end KeepsMade

theorem produce_keepsMade (r : Resolver σ) (token : Token) (context : Context) :
    r.KeepsMade (r.produce token context) := by
  intro s
  unfold produce
  cases hsource : r.source with
  | none => exact .of_cache_eq rfl
  | some source =>
      simp only [Exec.bind_apply, State.onHost]
      rcases hanswer : source.answer token.expansion token.identifier context s.host with
        ⟨_ | answer, host, events⟩
      · exact .of_cache_eq rfl
      · cases answer with
        | cached | empty => exact .of_cache_eq rfl
        | value text =>
            intro key entry hentry
            rcases State.slot?_keep_cases hentry with hold | ⟨rfl, hvalue, httl⟩
            · exact .inl hold
            · refine .inr ⟨source, token, context, hsource, ⟨s.host, ?_⟩, rfl, httl, ?_⟩
              · rw [hanswer, hvalue]
              · rw [hvalue]
                simp [settled, Exec.bind_apply, Report.after]

theorem lookup_keepsMade (r : Resolver σ) (token : Token) (context : Context) :
    r.KeepsMade (r.lookup token context) := by
  refine KeepsMade.bind (.of_cache_eq fun _ => rfl) fun s => ?_
  split
  · exact r.produce_keepsMade token context
  · refine KeepsMade.bind (fun s => .of_slot? fun key entry => State.slot?_of_fetch) fun found => ?_
    cases found with
    | some text => exact .of_cache_eq fun _ => rfl
    | none =>
        exact KeepsMade.bind (.of_cache_eq fun _ => rfl) fun _ => r.produce_keepsMade token context

/-- Whatever foreign code does, nothing but what the source has made is kept. -/
theorem closed_keepsMade (r : Resolver σ) : r.Closed fun x => r.KeepsMade x where
  value _ := .of_cache_eq fun _ => rfl
  panic _ := .of_cache_eq fun _ => rfl
  state := .of_cache_eq fun _ => rfl
  bind := .bind
  attempt := .attempt
  foreign _ := .of_cache_eq fun _ => rfl
  aside _ := .of_cache_eq fun _ => rfl
  unregister _ := .of_cache_eq fun _ => rfl
  gate _ _ := .of_cache_eq fun _ => rfl
  custom _ _ _ := .of_cache_eq fun _ => rfl
  refusal _ _ _ := .of_cache_eq fun _ => rfl
  lookup _ := r.lookup_keepsMade _ _

/-- Clients bring nothing into the cache themselves. -/
theorem call_keepsMade (r : Resolver σ) (call : Call σ) : r.KeepsMade (call.perform r) := by
  have hwork : ∀ f : Cache → Cache, (∀ cache key entry, (f cache).entries.find? key = some entry →
      cache.entries.find? key = some entry) → ∀ s : State σ, r.Keeps s [] (s.onCache f) := by
    intro f hf s
    apply Keeps.of_slot?
    intro key entry hentry
    cases hcache : s.cache with
    | none => simp [State.slot?, State.onCache, hcache] at hentry
    | some cache =>
        have hfind : (f cache).entries.find? key = some entry := by
          simpa [State.slot?, State.onCache, hcache] using hentry
        simpa [State.slot?, hcache] using hf cache key entry hfind
  cases call with
  | ask query => exact r.closed_keepsMade.query query
  | register | unregister => exact .of_cache_eq fun _ => rfl
  | invalidate key =>
      refine hwork _ fun cache k entry hfind => ?_
      rw [Cache.find?_invalidate] at hfind
      split_ifs at hfind
      exact hfind
  | invalidateSubject whom =>
      refine hwork _ fun cache k entry hfind => ?_
      rw [Cache.find?_invalidateSubject] at hfind
      split_ifs at hfind
      exact hfind
  | clear =>
      refine hwork _ fun cache k entry hfind => ?_
      cases hfind
  | advance | setClock => exact hwork _ fun cache k entry hfind => hfind

/-- Whatever comes into a cache during a run was made by the source in this run. -/
theorem run_keeps (r : Resolver σ) (calls : List (Call σ)) (s : State σ) :
    r.Keeps s (r.log calls s) (r.run calls s).state := by
  induction calls generalizing s with
  | nil => exact .of_cache_eq rfl
  | cons call rest ih => exact (r.call_keepsMade call s).trans (ih _)

end Resolver
end Placeholder
