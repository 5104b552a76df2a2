import Placeholder.Proofs.Freshness
import Placeholder.Proofs.Locality
import Placeholder.Proofs.Transparency

/-!
# Subjects do not meet in the cache

Every key belongs to the subject that is looked from, also where another one is looked at. A
question for one subject therefore comes to the same, and leaves the same under the keys of this
subject, whether or not other subjects have asked before. Over whole runs, what is asked for others
does not show in the replies for one subject, not even in whether an answer is a cached one.
-/
namespace Placeholder

variable {σ : Type}

/-- The subject whose context a key belongs to, if it is not everybody's. -/
def Key.owner : Key → Option Subject
  | global _ => none
  | subject whom _ => some whom
  | relational viewer _ _ => some viewer

theorem Key.owner_ofToken (token : Token) (context : Context) :
    (ofToken token context).owner = context.primary := by
  unfold ofToken Context.relation
  cases hp : context.primary <;> cases context.secondary <;> cases token.relational <;>
    simp [owner]

/-- The call is a question for a subject, or it is no question at all. -/
def Call.Concerns (whom : Subject) : Call σ → Prop
  | ask query => query.context.primary = some whom
  | _ => True

instance (whom : Subject) : DecidablePred (Call.Concerns (σ := σ) whom)
  | .ask query => inferInstanceAs (Decidable (query.context.primary = some whom))
  | .register .. | .unregister .. | .invalidate .. | .invalidateSubject .. | .clear | .advance ..
  | .setClock .. => isTrue trivial

theorem Call.exists_query_of_not_concerns {whom : Subject} {call : Call σ}
    (h : ¬ call.Concerns whom) : ∃ query, call = ask query ∧ query.context.primary ≠ some whom := by
  cases call with
  | ask query => exact ⟨query, rfl, h⟩
  | _ => exact (h trivial).elim

/-! ## Questions and their resolutions -/

namespace Query

/-- The tokens that are settled for a question, in their order. -/
def tokens (r : Resolver σ) : Query → List Token
  | resolve text _ | resolveWithFallback text _ _ =>
    Resolver.onePerKey (r.delimiter.tokens text).reverse
  | resolveByTasks schedule text _ =>
    schedule.order (Resolver.onePerKey (r.delimiter.tokens text).reverse)
  | resolvePlaceholder text _ => (r.delimiter.token? text).toList
  | resolveToken token _ _ => [token]

variable {r : Resolver σ} {query : Query} {trace : List Settled} {reply reply' : Reply}

theorem Gives.tokens_eq (h : query.Gives r trace reply) :
    trace.map Settled.token = query.tokens r := by
  cases h with
  | resolve htokens | withFallback htokens | byTasks htokens => exact htokens
  | unread hnone => simp [tokens, hnone]
  | placeholder hsome => simp [tokens, hsome]
  | token ht => simp [tokens, ht]

theorem Gives.unique (h : query.Gives r trace reply) (h' : query.Gives r trace reply')
    (s : State σ) : reply = reply' := by
  cases h with
  | resolve _ hout =>
      cases h' with
      | resolve _ hout' => exact congrArg _ (hout.unique hout' (fun _ => rfl) s)
  | withFallback _ hout =>
      cases h' with
      | withFallback _ hout' => exact congrArg _ (hout.unique hout' (fun _ => rfl) s)
  | byTasks _ hout =>
      cases h' with
      | byTasks _ hout' => exact congrArg _ (hout.unique hout' (fun _ => rfl) s)
  | unread | placeholder | token =>
      cases h'
      rfl

end Query

/-! ## Work on the cache -/

/-- Entries are dropped from a cache by their keys, and its clock is moved. -/
structure Cache.Acts (drops : Key → Bool) (move : Clock → Clock) (f : Cache → Cache) : Prop where
  clock : ∀ cache, (f cache).clock = move cache.clock
  capacity : ∀ cache, (f cache).capacity = cache.capacity
  find? : ∀ cache k,
    (f cache).entries.find? k = if drops k then none else cache.entries.find? k

namespace Cache.Acts

theorem invalidate (key : Key) :
    Acts (fun k => decide (k = key)) id fun cache => cache.invalidate key where
  clock _ := rfl
  capacity _ := rfl
  find? cache k := by simp [find?_invalidate]

theorem invalidateSubject (whom : Subject) :
    Acts (fun k => k.mentions whom) id fun cache => cache.invalidateSubject whom where
  clock _ := rfl
  capacity _ := rfl
  find? cache k := find?_invalidateSubject cache whom k

theorem clear : Acts (fun _ => true) id Cache.clear := ⟨fun _ => rfl, fun _ => rfl, fun _ _ => rfl⟩

theorem moved (move : Clock → Clock) :
    Acts (fun _ => false) move fun cache => { cache with clock := move cache.clock } :=
  ⟨fun _ => rfl, fun _ => rfl, fun _ _ => rfl⟩

variable {drops : Key → Bool} {move : Clock → Clock} {f : Cache → Cache}

theorem slot? (h : Acts drops move f) (s : State σ) (key : Key) :
    (s.onCache f).slot? key = if drops key then none else s.slot? key := by
  cases hs : s.cache <;> simp [State.slot?, State.onCache, hs, h.find?]

theorem clock_eq (h : Acts drops move f) (s : State σ) :
    (s.onCache f).cache.map Cache.clock = (s.cache.map Cache.clock).map move := by
  cases hs : s.cache <;> simp [State.onCache, hs, h.clock]

theorem places (h : Acts drops move f) (s : State σ) : (s.onCache f).places = s.places := by
  cases hs : s.cache <;> simp [State.places, State.onCache, hs, h.capacity]

theorem mem_keys_iff (h : Acts drops move f) (s : State σ) {key : Key} :
    key ∈ (s.onCache f).keys ↔ drops key = false ∧ key ∈ s.keys := by
  rw [State.mem_keys_iff, State.mem_keys_iff, h.slot?]
  cases drops key <;> simp

end Cache.Acts

/-! ## What is in use -/

/-- The cache has its places and holds nothing but what the history says. -/
structure State.Housed (g : Registry σ) (capacity : UInt64) (past : List Happening)
    (s : State σ) : Prop where
  places : s.places = capacity.toNat
  listed : ∀ key ∈ s.keys, key ∈ held g past

theorem mem_hold_of_ne {g : Registry σ} {keys : List Key} {key : Key} {x : Settled} {now : UInt64}
    (h : key ∈ keys) (hne : key ≠ x.key) : key ∈ hold g keys (.settled x now) := by
  have hothers : key ∈ keys.filter fun k => k ≠ x.key := by simp [h, hne]
  cases ho : x.origin with
  | gate | custom | refusal | cache => simpa [hold, ho] using h
  | nothing => simpa only [hold, ho] using hothers
  | registry =>
      simp only [hold, ho]
      split_ifs
      · exact hothers
      · exact List.mem_cons_of_mem _ hothers

variable {g : Registry σ} {capacity : UInt64} {past : List Happening} {s s' u u' : State σ}

theorem State.Housed.hasRoom (h : s.Housed g capacity past) {x : Settled} {now : UInt64}
    (hroom : Roomy g capacity past (.settled x now)) (horigin : x.origin = .registry)
    (httl : (g.ttl x.token.expansion x.token.identifier).isNone = false) : s.HasRoom x.key := by
  right
  rw [Roomy, held_concat, hold, horigin] at hroom
  simp only [httl, Bool.false_eq_true, if_false, List.length_cons] at hroom
  have hsub : s.keys.erase x.key ⊆ ((held g past).filter fun k => k ≠ x.key).toFinset := by
    intro k hk
    obtain ⟨hne, hmem⟩ := Finset.mem_erase.mp hk
    simpa [hne] using h.listed k hmem
  have hcard := (Finset.card_le_card hsub).trans (List.toFinset_card_le _)
  rw [h.places]
  omega

namespace Resolver

variable {r : Resolver σ} {token : Token} {context : Context} {events : List Event}
  {origin : Origin} {answer : Answer}

theorem ttl_eq (hsource : r.source = some g.toSource) (token : Token) :
    r.ttl token = g.ttl token.expansion token.identifier := by
  simp [ttl, hsource, Registry.toSource]

theorem Settles.housed (h : r.Settles token context s events origin answer s') (hr : r.Steady)
    (hsource : r.source = some g.toSource) (hs : s.Housed g capacity past) {now : UInt64}
    (hroom : Roomy g capacity past (.settled ⟨token, context, origin, answer⟩ now)) :
    s'.Housed g capacity (past ++ [.settled ⟨token, context, origin, answer⟩ now]) := by
  have htouches := h.touches
  refine ⟨htouches.places.trans hs.places, ?_⟩
  intro k hk
  rw [held_concat]
  by_cases hkey : k = Key.ofToken token context
  · subst hkey
    have hentry := h.slot?_eq hr fun ho ht => hs.hasRoom hroom ho (ttl_eq hsource token ▸ ht)
    obtain ⟨rfl, -⟩ := h.verdict_eq hr
    rw [State.mem_keys_iff, hentry, leaves] at hk
    cases hv : r.verdict s token context with
    | gate | custom | refusal | kept =>
        rw [hv] at hk
        exact hs.listed _ (State.mem_keys_iff.mpr hk)
    | made text =>
        rw [hv] at hk
        by_cases hn : (g.ttl token.expansion token.identifier).isNone = true
        · simp [ttl_eq hsource, hn] at hk
        · simp [hold, Verdict.origin, hn, Settled.key]
    | nothing => simp [hv] at hk
  · exact mem_hold_of_ne (hs.listed k ((htouches.mem_keys_iff hkey).mp hk)) hkey

end Resolver

/-! ## Pairs of states -/

/-- The second state is what the first would be if only one subject had asked. -/
structure Shadows (g : Registry σ) (capacity : UInt64) (whom : Subject) (past : List Happening)
    (s u : State σ) : Prop where
  housed : s.Housed g capacity past
  steady : Customs.Steady s.customs
  agree : s.Agree (fun key => key.owner = some whom) u
  own : ∀ key ∈ u.keys, key.owner = some whom

namespace Shadows

variable {r : Resolver σ} {whom : Subject} {token : Token} {context : Context}
  {events events' : List Event} {origin origin' : Origin} {answer answer' : Answer}

theorem start (g : Registry σ) (capacity : UInt64) (whom : Subject) (clock : Clock) (host : σ) :
    Shadows g capacity whom [] (.withEmptyCache capacity clock host)
      (.withEmptyCache capacity clock host) := by
  have hempty : ∀ key, key ∉ (State.withEmptyCache capacity clock host).keys := by
    intro key hkey
    cases State.mem_keys_iff.mp hkey
  exact ⟨⟨rfl, fun key hkey => (hempty key hkey).elim⟩, Customs.forall_empty, .refl _ _,
    fun key hkey => (hempty key hkey).elim⟩

/-- A resolution for somebody else takes place under a key of somebody else. -/
theorem other (h : Shadows g capacity whom past s u)
    (hsettles : r.Settles token context s events origin answer s') (hr : r.Steady)
    (hsource : r.source = some g.toSource) (hwhom : context.primary ≠ some whom) {now : UInt64}
    (hroom : Roomy g capacity past (.settled ⟨token, context, origin, answer⟩ now)) :
    Shadows g capacity whom (past ++ [.settled ⟨token, context, origin, answer⟩ now]) s' u := by
  have hspared : s.Agree (fun key => key.owner = some whom) s' := by
    apply hsettles.touches.mono
    intro key howner hkey
    subst hkey
    exact hwhom ((Key.owner_ofToken token context).symm.trans howner)
  refine ⟨hsettles.housed hr hsource h.housed hroom, ?_, hspared.symm.trans h.agree, h.own⟩
  rw [hsettles.customs_eq]
  exact h.steady

/-- A resolution for the subject itself comes to the same in both states. -/
theorem same (h : Shadows g capacity whom past s u)
    (hsettles : r.Settles token context s events origin answer s')
    (hsettles' : r.Settles token context u events' origin' answer' u') (hr : r.Steady)
    (hsource : r.source = some g.toSource) (hwhom : context.primary = some whom) {now : UInt64}
    (hroom : Roomy g capacity past (.settled ⟨token, context, origin, answer⟩ now)) :
    origin' = origin ∧ answer' = answer ∧
      Shadows g capacity whom (past ++ [.settled ⟨token, context, origin, answer⟩ now]) s' u' := by
  have howner : (Key.ofToken token context).owner = some whom :=
    (Key.owner_ofToken token context).trans hwhom
  have hrooms : origin = .registry → (r.ttl token).isNone = false →
      s.HasRoom (Key.ofToken token context) ∧ u.HasRoom (Key.ofToken token context) := by
    intro ho ht
    have hs : s.HasRoom (Key.ofToken token context) :=
      h.housed.hasRoom hroom ho (Resolver.ttl_eq hsource token ▸ ht)
    exact ⟨hs, hs.mono h.agree.places fun k hk _ => (h.agree.mem_keys_iff (h.own k hk)).mp hk⟩
  obtain ⟨ho, ha, hagree⟩ := hsettles.agree hsettles' h.agree hr h.steady howner hrooms
  refine ⟨ho, ha, hsettles.housed hr hsource h.housed hroom, ?_, hagree, ?_⟩
  · rw [hsettles.customs_eq]
    exact h.steady
  · intro k hk
    by_cases hkey : k = Key.ofToken token context
    · exact hkey ▸ howner
    · exact h.own k ((hsettles'.touches.mem_keys_iff hkey).mp hk)

theorem other_trace {trace : List Settled} (htrace : r.Trace context s trace s')
    (h : Shadows g capacity whom past s u) (hr : r.Steady) (hsource : r.source = some g.toSource)
    (hwhom : context.primary ≠ some whom)
    (hroom : Throughout (Roomy g capacity) past (trace.map (Happening.settled · s.now))) :
    Shadows g capacity whom (past ++ trace.map (Happening.settled · s.now)) s' u := by
  induction htrace generalizing past with
  | nil s => simpa using h
  | @cons s v s' token events origin answer trace hsettles _ ih =>
      obtain ⟨hfirst, hrest⟩ := Throughout.cons_iff.mp hroom
      have hnow : v.now = s.now := hsettles.touches.now
      have hv := h.other hsettles hr hsource hwhom hfirst
      rw [← hnow] at hv hrest
      simpa [hnow] using ih hv hrest

theorem same_trace {trace trace' : List Settled} (htrace : r.Trace context s trace s')
    (htrace' : r.Trace context u trace' u')
    (htokens : trace'.map Settled.token = trace.map Settled.token)
    (h : Shadows g capacity whom past s u) (hr : r.Steady) (hsource : r.source = some g.toSource)
    (hwhom : context.primary = some whom)
    (hroom : Throughout (Roomy g capacity) past (trace.map (Happening.settled · s.now))) :
    trace' = trace ∧
      Shadows g capacity whom (past ++ trace.map (Happening.settled · s.now)) s' u' := by
  induction htrace generalizing past u trace' with
  | nil s =>
      obtain rfl := List.map_eq_nil_iff.mp htokens
      cases htrace'
      exact ⟨rfl, by simpa using h⟩
  | @cons s v s' token events origin answer trace hsettles _ ih =>
      cases htrace' with
      | nil => cases htokens
      | @cons _ w _ _ _ _ _ rest hsettles' hlater' =>
          obtain ⟨rfl, hlater⟩ := List.cons.inj htokens
          obtain ⟨hfirst, hrest⟩ := Throughout.cons_iff.mp hroom
          have hnow : v.now = s.now := hsettles.touches.now
          obtain ⟨rfl, rfl, hv⟩ := h.same hsettles hsettles' hr hsource hwhom hfirst
          rw [← hnow] at hv hrest
          obtain ⟨rfl, hs'⟩ := ih hlater' hlater hv hrest
          exact ⟨rfl, by simpa [hnow] using hs'⟩

/-! ### Calls -/

theorem other_query (h : Shadows g capacity whom past s u) (hreturns : r.Returns) (hr : r.Steady)
    (hsource : r.source = some g.toSource) {query : Query}
    (hwhom : query.context.primary ≠ some whom)
    (hroom : Throughout (Roomy g capacity) past
      ((settlements (query.perform r s).events).map (Happening.settled · s.now))) :
    ∃ reply, (query.perform r s).result = .ok reply ∧
      Shadows g capacity whom
        (past ++ (settlements (query.perform r s).events).map (Happening.settled · s.now))
        (query.perform r s).state u := by
  obtain ⟨reply, s', events, trace, hrun, rfl, htrace, -⟩ :=
    query.perform_traces hreturns h.steady.direct
  rw [hrun] at hroom ⊢
  exact ⟨reply, rfl, h.other_trace htrace hr hsource hwhom hroom⟩

theorem same_query (h : Shadows g capacity whom past s u) (hreturns : r.Returns) (hr : r.Steady)
    (hsource : r.source = some g.toSource) {query : Query}
    (hwhom : query.context.primary = some whom)
    (hroom : Throughout (Roomy g capacity) past
      ((settlements (query.perform r s).events).map (Happening.settled · s.now))) :
    ∃ reply, (query.perform r s).result = .ok reply ∧ (query.perform r u).result = .ok reply ∧
      Shadows g capacity whom
        (past ++ (settlements (query.perform r s).events).map (Happening.settled · s.now))
        (query.perform r s).state (query.perform r u).state := by
  have hdirect := h.steady.direct
  obtain ⟨reply, s', events, trace, hrun, rfl, htrace, hgives⟩ :=
    query.perform_traces hreturns hdirect
  obtain ⟨reply', u', events', trace', hrun', -, htrace', hgives'⟩ :=
    query.perform_traces hreturns (h.agree.customs ▸ hdirect)
  rw [hrun] at hroom ⊢
  rw [hrun']
  have htokens := hgives'.tokens_eq.trans hgives.tokens_eq.symm
  obtain ⟨rfl, hs'⟩ := h.same_trace htrace htrace' htokens hr hsource hwhom hroom
  exact ⟨reply, rfl, congrArg _ (hgives'.unique hgives s), hs'⟩

theorem onCache (h : Shadows g capacity whom past s u) {drops : Key → Bool}
    {move : Clock → Clock} {f : Cache → Cache} (hf : Cache.Acts drops move f)
    {future : List Happening}
    (hheld : ∀ key ∈ held g past, drops key = false → key ∈ held g future) :
    Shadows g capacity whom future (s.onCache f) (u.onCache f) where
  housed := by
    refine ⟨(hf.places s).trans h.housed.places, fun key hkey => ?_⟩
    obtain ⟨hspared, hold⟩ := (hf.mem_keys_iff s).mp hkey
    exact hheld key (h.housed.listed key hold) hspared
  steady := h.steady
  agree := by
    refine ⟨h.agree.customs, ?_, ?_, fun key hkey => ?_⟩
    · rw [hf.clock_eq, hf.clock_eq, h.agree.clock]
    · rw [hf.places, hf.places, h.agree.places]
    · rw [hf.slot?, hf.slot?, h.agree.entry key hkey]
  own key hkey := h.own key ((hf.mem_keys_iff u).mp hkey).2

theorem withCustoms (h : Shadows g capacity whom past s u) {customs customs' : Customs σ}
    (hsteady : Customs.Steady customs) (hsame : customs' = customs) :
    Shadows g capacity whom past { s with customs } { u with customs := customs' } :=
  ⟨⟨h.housed.places, h.housed.listed⟩, hsteady,
    ⟨hsame, h.agree.clock, h.agree.places, h.agree.entry⟩, h.own⟩

/-- A call that concerns the subject has the same reply in both states and leaves them in step. -/
theorem same_call (h : Shadows g capacity whom past s u) (hreturns : r.Returns) (hr : r.Steady)
    (hsource : r.source = some g.toSource) {call : Call σ} (hcall : call.Steady)
    (hconcerns : call.Concerns whom)
    (hroom : Throughout (Roomy g capacity) past
      (call.happenings s.now (call.perform r s).events)) :
    ∃ reply, (call.perform r s).result = .ok reply ∧ (call.perform r u).result = .ok reply ∧
      Shadows g capacity whom (past ++ call.happenings s.now (call.perform r s).events)
        (call.perform r s).state (call.perform r u).state := by
  have hsilent : Shadows g capacity whom (past ++ []) s u := by simpa using h
  cases call with
  | ask query => exact h.same_query hreturns hr hsource hconcerns hroom
  | register expansion custom =>
      have hsame : u.customs.register expansion custom = s.customs.register expansion custom := by
        rw [h.agree.customs]
      refine ⟨.flag (s.customs.register expansion custom).1, rfl, ?_, ?_⟩
      · rw [← hsame]
        rfl
      · exact hsilent.withCustoms (Customs.forall_register h.steady hcall expansion)
          (congrArg Prod.snd hsame)
  | unregister expansion =>
      have hsame : u.customs.unregister expansion = s.customs.unregister expansion := by
        rw [h.agree.customs]
      refine ⟨.flag (s.customs.unregister expansion).1, rfl, ?_, ?_⟩
      · rw [← hsame]
        rfl
      · exact hsilent.withCustoms (Customs.forall_unregister h.steady expansion)
          (congrArg Prod.snd hsame)
  | invalidate key =>
      refine ⟨.done, rfl, rfl, h.onCache (.invalidate key) fun k hk hspared => ?_⟩
      simpa [Call.happenings, hold, hk] using hspared
  | invalidateSubject subject =>
      refine ⟨.done, rfl, rfl, h.onCache (.invalidateSubject subject) fun k hk hspared => ?_⟩
      simpa [Call.happenings, hold, hk] using hspared
  | clear => exact ⟨.done, rfl, rfl, h.onCache .clear (by simp)⟩
  | advance span =>
      refine ⟨.done, rfl, rfl, hsilent.onCache (.moved fun clock => clock.advance span) ?_⟩
      exact fun key hkey _ => hkey
  | setClock reading =>
      refine ⟨.done, rfl, rfl, hsilent.onCache (.moved fun clock => clock.set reading) ?_⟩
      exact fun key hkey _ => hkey

/-- Over a run, the calls that concern the subject have the replies that they have by themselves. -/
theorem run (h : Shadows g capacity whom past s u) (hreturns : r.Returns) (hr : r.Steady)
    (hsource : r.source = some g.toSource) {calls : List (Call σ)}
    (hcalls : ∀ call ∈ calls, call.Steady)
    (hroom : Throughout (Roomy g capacity) past (r.run calls s).history) :
    ∃ replies : List Reply, (r.run calls s).replies = replies.map .ok ∧
      (r.run (calls.filter fun call => call.Concerns whom) u).replies =
        (((calls.zip replies).filter fun x => x.1.Concerns whom).map Prod.snd).map .ok := by
  induction calls generalizing past s u with
  | nil => exact ⟨[], rfl, rfl⟩
  | cons call rest ih =>
      obtain ⟨hcall, hrest⟩ := List.forall_mem_cons.mp hcalls
      obtain ⟨hfirst, hlater⟩ := Throughout.append_iff.mp hroom
      by_cases hconcerns : call.Concerns whom
      · obtain ⟨reply, hreply, hreply', hnext⟩ :=
          h.same_call hreturns hr hsource hcall hconcerns hfirst
        obtain ⟨replies, hreplies, hreplies'⟩ := ih hnext hrest hlater
        refine ⟨reply :: replies, ?_, ?_⟩
        · simp only [Resolver.run, hreply, hreplies, List.map_cons]
        · simp only [List.filter_cons, List.zip_cons_cons, hconcerns, decide_true, if_true,
            Resolver.run, hreply', hreplies', List.map_cons]
      · obtain ⟨query, rfl, hwhom⟩ := Call.exists_query_of_not_concerns hconcerns
        obtain ⟨reply, hreply, hnext⟩ := h.other_query hreturns hr hsource hwhom hfirst
        obtain ⟨replies, hreplies, hreplies'⟩ := ih hnext hrest hlater
        refine ⟨reply :: replies, ?_, ?_⟩
        · simp only [Resolver.run, Call.perform, hreply, hreplies, List.map_cons]
        · simpa only [List.filter_cons, List.zip_cons_cons, hconcerns, decide_false,
            Bool.false_eq_true, if_false] using hreplies'

end Shadows

/-- Subjects do not interfere through the cache. If a run leaves out whatever is asked for others
and for nobody, each of the calls that are left has the same reply as before. With it stays whether
an answer is a cached one. -/
theorem Resolver.subjects_separate {r : Resolver σ} {g : Registry σ}
    (hsource : r.source = some g.toSource) (hg : g.Calm) (hsteady : g.Steady) (capacity : UInt64)
    (clock : Clock) (host : σ) (calls : List (Call σ)) (hcalls : ∀ call ∈ calls, call.Steady)
    (hroom : ∀ older newer,
      (r.run calls (.withEmptyCache capacity clock host)).history = older ++ newer →
      (held g older).length ≤ capacity.toNat)
    (whom : Subject) :
    ∃ replies : List Reply,
      (r.run calls (.withEmptyCache capacity clock host)).replies = replies.map .ok ∧
      (r.run (calls.filter fun call => call.Concerns whom)
          (.withEmptyCache capacity clock host)).replies =
        (((calls.zip replies).filter fun x => x.1.Concerns whom).map Prod.snd).map .ok := by
  obtain ⟨hreturns, hr⟩ := steady_of_registry fun source h =>
    ⟨g, Option.some.inj (h.symm.trans hsource), hg, hsteady⟩
  apply (Shadows.start g capacity whom clock host).run hreturns hr hsource hcalls
  intro past x rest hhistory
  exact hroom (past ++ [x]) rest (by simp [hhistory])

theorem length_held_le (g : Registry σ) (history : List Happening) :
    (held g history).length ≤ history.length := by
  induction history using List.reverseRecOn with
  | nil => exact Nat.le_refl 0
  | append_singleton past x ih =>
      have hstep : (hold g (held g past) x).length ≤ (held g past).length + 1 := by
        have hfilter : ∀ p : Key → Bool, ((held g past).filter p).length ≤ (held g past).length :=
          fun p => List.length_filter_le p _
        cases x with
        | settled y now =>
            cases ho : y.origin with
            | registry =>
                simp only [hold, ho]
                split_ifs
                · exact Nat.le_succ_of_le (hfilter _)
                · exact Nat.succ_le_succ (hfilter _)
            | nothing => simpa only [hold, ho] using Nat.le_succ_of_le (hfilter _)
            | gate | custom | refusal | cache => simp [hold, ho]
        | invalidated | forgotten => exact Nat.le_succ_of_le (hfilter _)
        | cleared => exact Nat.zero_le _
      rw [held_concat, List.length_append, List.length_singleton]
      omega

def firstSubject : Subject := ⟨1⟩

def secondSubject : Subject := ⟨2⟩

/-- Two subjects ask for the same, and the second looks at the first. -/
def bothAsk : List (Call Unit) :=
  [.ask (.resolvePlaceholder "a_b" (.ofSubject secondSubject)),
    .ask (.resolvePlaceholder "rel_a_b" (.ofRelation secondSubject firstSubject)),
    .ask (.resolve "%a_b%" (.ofSubject firstSubject)),
    .ask (.resolvePlaceholder "a_b" (.ofSubject firstSubject))]

set_option maxRecDepth 2000 in
theorem bothAsk_history :
    (oneHandler.toResolver.run bothAsk (.withEmptyCache 4 ⟨0⟩ ())).history.length = 4 := by
  decide +kernel

/-- The first subject has its replies whether or not the second asks. -/
theorem bothAsk_separate :
    oneHandler.Calm ∧ oneHandler.Steady ∧ (∀ call ∈ bothAsk, call.Steady) ∧
    ∃ replies : List Reply,
      (oneHandler.toResolver.run bothAsk (.withEmptyCache 4 ⟨0⟩ ())).replies = replies.map .ok ∧
      (oneHandler.toResolver.run (bothAsk.filter fun call => call.Concerns firstSubject)
          (.withEmptyCache 4 ⟨0⟩ ())).replies =
        (((bothAsk.zip replies).filter fun x => x.1.Concerns firstSubject).map Prod.snd).map
          .ok := by
  have hcalm : oneHandler.Calm := Registry.single_calm _
  have hsteady : oneHandler.Steady := Registry.single_steady (Handler.constant_steady _ _ _)
  have hcalls : ∀ call ∈ bothAsk, call.Steady := by simp [bothAsk, Call.Steady]
  refine ⟨hcalm, hsteady, hcalls, ?_⟩
  apply Resolver.subjects_separate rfl hcalm hsteady 4 ⟨0⟩ () bothAsk hcalls
  intro older newer h
  have hlength : older.length ≤ 4 := by
    have := congrArg List.length h
    rw [bothAsk_history, List.length_append] at this
    omega
  exact (length_held_le oneHandler older).trans hlength

end Placeholder
