import Mathlib.Data.List.Dedup
import Placeholder.Proofs.Once

/-!
# Counters balance

Every counter is told by what was done. All single resolutions are counted, each under one word; the
words are settled by the answers and by which foreign code had a value. The cache is counted by what
it had and what it did not have, and failures by the visits that failed. Turns keep each of these
accounts in balance, so the accounts balance for every text, in whatever order the work is done.
-/
namespace Placeholder

variable {σ : Type}

/-! ## Counting events -/

theorem count_cons (counter : Counter) (e : Event) (events : List Event) :
    count counter (e :: events) = (if e.counter? = some counter then 1 else 0) +
      count counter events := by
  unfold count
  cases h : e.counter? with
  | none => simp [List.filterMap_cons_none h]
  | some c =>
      rw [List.filterMap_cons_some h, List.count_cons, Nat.add_comm]
      simp

theorem count_resolutions (label : String) (events : List Event) :
    count (.resolutions label) events =
      (settlements events).countP fun x => x.origin.label == label := by
  induction events with
  | nil => rfl
  | cons e events ih =>
      rw [count_cons, ih]
      cases e with
      | settled token context origin answer =>
          rw [settlements_settled, List.countP_cons, Nat.add_comm]
          simp [Event.counter?]
      | hit | miss | handlerCalled | customCalled | failed =>
          rw [if_neg (by simp [Event.counter?]), Nat.zero_add]
          rfl

def Outcome.isFailure : Outcome → Bool
  | failure _ | panic _ => true
  | value _ | decline => false

/-- The visit failed or panicked, and it was one of an expansion. -/
def Visit.failedFor (expansion : String) (v : Visit) : Bool :=
  v.outcome.isFailure && v.expansion == expansion

theorem count_faults (counter : Counter) (expansion : String) (outcome : Outcome) :
    count counter (outcome.faults expansion) =
      if outcome.isFailure = true ∧ counter = .failures expansion then 1 else 0 := by
  cases outcome <;> simp [Outcome.faults, Outcome.isFailure, count_cons, Event.counter?, eq_comm]

theorem count_told {counter : Counter} (h : ∀ expansion, counter ≠ .failures expansion)
    (visits : List Visit) : count counter (told visits) = 0 := by
  induction visits with
  | nil => rfl
  | cons v visits ih =>
      have hcall : v.call.counter? = none := by cases v <;> rfl
      simp [Visit.events, count_cons, hcall, count_faults, h, ih]

theorem count_told_failures (expansion : String) (visits : List Visit) :
    count (.failures expansion) (told visits) = visits.countP (Visit.failedFor expansion) := by
  induction visits with
  | nil => rfl
  | cons v visits ih =>
      have hcall : v.call.counter? = none := by cases v <;> rfl
      rw [told_cons, count_append, ih, Visit.events, count_cons, hcall, count_faults,
        List.countP_cons, Nat.add_comm]
      by_cases hexpansion : v.expansion = expansion
      · simp [Visit.failedFor, hexpansion]
      · simp [Visit.failedFor, hexpansion, Ne.symm hexpansion]

/-! ## Accounts -/

/-- A visit to a custom resolver that came to a value, for some tokens. -/
def Visit.customValue (p : Token → Bool) (v : Visit) : Bool := v.isCustom && v.hasValue && p v.token

/-- A visit to a handler that came to a value. -/
def Visit.handlerValue (v : Visit) : Bool := !v.isCustom && v.hasValue

/-- A resolution that a custom resolver had the value for. -/
def Settled.byCustom (p : Token → Bool) (x : Settled) : Bool := x.origin == .custom && p x.token

/-- A resolution that came as far as to the source, if there is one. -/
def Settled.bySource (x : Settled) : Bool := x.origin == .registry || x.origin == .nothing

def Stage.isMade : Stage → Bool
  | made _ _ => true
  | waiting | atCache | atSource | ended _ | lost => false

/-- The cache has been asked, and the task has not ended. -/
def Stage.isBehindCache : Stage → Bool
  | atSource | made _ _ => true
  | waiting | atCache | ended _ | lost => false

theorem State.countP_customValue (s : State σ) (token : Token) (context : Context)
    (p : Token → Bool) :
    (s.visits token context).countP (Visit.customValue p) =
      if (s.consult token context).value?.isSome = true ∧ p token = true then 1 else 0 := by
  rcases s.visits_cases token context with ⟨hvisits, hconsult⟩ | ⟨outcome, _, hvisits, hconsult⟩
  · simp [hvisits, hconsult]
  · rw [hvisits, hconsult]
    cases h : outcome.value?.isSome <;>
      simp [Visit.customValue, Visit.isCustom, Visit.hasValue, Visit.outcome, Visit.token, h]

theorem State.countP_handlerValue (s : State σ) (token : Token) (context : Context) :
    (s.visits token context).countP Visit.handlerValue = 0 := by
  rcases s.visits_cases token context with ⟨hvisits, -⟩ | ⟨outcome, _, hvisits, -⟩ <;>
    simp [hvisits, Visit.handlerValue, Visit.isCustom]

namespace Registry.Asked

variable {g : Registry σ} {token : Token} {context : Context} {host host' : σ}
  {visits : List Visit} {text? : Option String}

theorem countP_customValue (h : g.Asked token context host visits text? host')
    (p : Token → Bool) : visits.countP (Visit.customValue p) = 0 := by
  rcases h.visits_cases with ⟨rfl, -⟩ | ⟨_, _, _, rfl, -⟩ <;>
    simp [Visit.customValue, Visit.isCustom]

theorem countP_handlerValue (h : g.Asked token context host visits text? host') :
    visits.countP Visit.handlerValue = if text?.isSome = true then 1 else 0 := by
  rcases h.visits_cases with ⟨rfl, rfl⟩ | ⟨_, _, outcome, rfl, rfl⟩
  · rfl
  · cases h : outcome.value?.isSome <;>
      simp [Visit.handlerValue, Visit.isCustom, Visit.hasValue, Visit.outcome, h]

end Registry.Asked

namespace Stage.Advances

variable {r : Resolver σ} {token : Token} {context : Context} {s s' : State σ} {stage next : Stage}
  {visits : List Visit} {events : List Event}

theorem settled_custom (h : Advances r token context stage s visits events next s')
    (p : Token → Bool) :
    (settlements events).countP (Settled.byCustom p) = visits.countP (Visit.customValue p) := by
  cases h with
  | gate | hit | sourceless | keep => rfl
  | custom _ hv | refusal _ hv => simp [State.countP_customValue, hv, Settled.byCustom]
  | onward hreach => simp [State.countP_customValue, hreach.declined]
  | missed hmissed => cases hmissed <;> rfl
  | nothing _ hasked => simp [hasked.countP_customValue, Settled.byCustom]
  | fresh _ hasked => simp [hasked.countP_customValue]

/-- A text that the source has made is counted when it is kept. -/
theorem settled_registry (h : Advances r token context stage s visits events next s') :
    (settlements events).countP (fun x => x.origin == .registry) + next.isMade.toNat =
      visits.countP Visit.handlerValue + stage.isMade.toNat := by
  cases h with
  | gate | hit | sourceless | keep => rfl
  | custom | refusal | onward => simp [State.countP_handlerValue, isMade]
  | missed hmissed => cases hmissed <;> rfl
  | nothing _ hasked | fresh _ hasked => simp [hasked.countP_handlerValue, isMade]

theorem hits_eq (h : Advances r token context stage s visits events next s') :
    count .hits events = (settlements events).countP (fun x => x.origin == .cache) := by
  cases h with
  | gate | hit | sourceless | keep => rfl
  | custom | refusal | onward | nothing | fresh => simp [count_told, count_cons, Event.counter?]
  | missed hmissed => cases hmissed <;> rfl

/-- Whoever misses in the cache is settled by the source, sooner or later. -/
theorem misses_eq (h : Advances r token context stage s visits events next s')
    (hcached : s.cache.isSome = true) :
    (settlements events).countP Settled.bySource + next.isBehindCache.toNat =
      count .misses events + stage.isBehindCache.toNat := by
  cases h with
  | gate | hit | sourceless | keep => rfl
  | custom | refusal | onward | nothing | fresh =>
      simp [count_told, count_cons, Event.counter?, isBehindCache, Settled.bySource]
  | missed hmissed =>
      cases hmissed with
      | uncached hnone => simp [hnone] at hcached
      | missed => rfl

theorem misses_eq_zero (h : Advances r token context stage s visits events next s')
    (hcached : s.cache.isSome = false) : count .misses events = 0 := by
  cases h with
  | gate | hit | sourceless | keep => rfl
  | custom | refusal | onward | nothing | fresh => simp [count_told, count_cons, Event.counter?]
  | missed hmissed =>
      cases hmissed with
      | uncached => rfl
      | missed hsome => simp [hsome] at hcached

theorem failures_eq (h : Advances r token context stage s visits events next s')
    (expansion : String) :
    count (.failures expansion) events = visits.countP (Visit.failedFor expansion) := by
  cases h with
  | gate | hit | sourceless | keep => rfl
  | custom | refusal | onward | nothing | fresh =>
      simp [count_told_failures, count_cons, Event.counter?]
  | missed hmissed => cases hmissed <;> rfl

end Stage.Advances

/-! ## What resolutions come to -/

/-- What the origin of a resolution says about its token and its answer. -/
inductive Settled.Sound (r : Resolver σ) : Settled → Prop
  | gate {t : Token} {c : Context} : ¬ Passes t c → Sound r ⟨t, c, .gate, .empty⟩
  | custom {t : Token} {c : Context} (text : String) : Sound r ⟨t, c, .custom, .value text⟩
  | refusal {t : Token} {c : Context} : r.refuses t = true → Sound r ⟨t, c, .refusal, .empty⟩
  | cache {t : Token} {c : Context} (text : String) : Sound r ⟨t, c, .cache, .cached text⟩
  | registry {t : Token} {c : Context} (text : String) : Passes t c → r.refuses t = false →
      Sound r ⟨t, c, .registry, .value text⟩
  | nothing {t : Token} {c : Context} : Passes t c → r.refuses t = false →
      Sound r ⟨t, c, .nothing, .empty⟩

theorem Origin.label_eq_custom (o : Origin) : (o.label == "custom") = (o == .custom) := by
  cases o <;> decide

theorem Origin.label_eq_cache (o : Origin) : (o.label == "cache") = (o == .cache) := by
  cases o <;> decide

theorem Origin.label_eq_registry (o : Origin) : (o.label == "registry") = (o == .registry) := by
  cases o <;> decide

namespace Settled.Sound

variable {r : Resolver σ} {x : Settled}

theorem label_eq_empty (h : x.Sound r) : (x.origin.label == "empty") = x.answer.isEmpty := by
  cases h <;> simp [Origin.label, Answer.isEmpty]

theorem label_eq_cache (h : x.Sound r) : (x.origin.label == "cache") = x.answer.isCached := by
  cases h <;> simp [Origin.label, Answer.isCached]

end Settled.Sound

/-- A task that is behind the gate, the custom resolvers and the refusal has passed them. -/
def Stage.Cleared (r : Resolver σ) (token : Token) (context : Context) : Stage → Prop
  | atCache | atSource | made _ _ => Passes token context ∧ r.refuses token = false
  | waiting | ended _ | lost => True

theorem Stage.Advances.sound {r : Resolver σ} {token : Token} {context : Context} {s s' : State σ}
    {stage next : Stage} {visits : List Visit} {events : List Event}
    (h : Advances r token context stage s visits events next s')
    (hcleared : stage.Cleared r token context) :
    next.Cleared r token context ∧ ∀ x ∈ settlements events, x.Sound r := by
  cases h with
  | gate hc => exact ⟨trivial, by simpa using .gate hc⟩
  | custom => exact ⟨trivial, by simpa using .custom _⟩
  | refusal _ _ hrefuses => exact ⟨trivial, by simpa using .refusal hrefuses⟩
  | onward hreach => exact ⟨⟨hreach.passes, hreach.allowed⟩, by simp⟩
  | hit =>
      refine ⟨trivial, fun x hx => ?_⟩
      obtain rfl := List.mem_singleton.mp hx
      exact .cache _
  | missed hmissed => exact ⟨hcleared, by cases hmissed <;> simp [settlements, Event.settled?]⟩
  | sourceless | nothing => exact ⟨trivial, by simpa using .nothing hcleared.1 hcleared.2⟩
  | fresh => exact ⟨hcleared, by simp⟩
  | keep => exact ⟨trivial, by simpa using .registry _ hcleared.1 hcleared.2⟩

namespace Resolver

variable {r : Resolver σ} {context : Context} {tasks tasks' : List Task} {tokens : List Token}
  {s s' : State σ} {visits : List Visit} {events : List Event} {text out : String}
  {fallback : Option String}

theorem Works.sound (h : r.Works context tasks s visits events tasks' s')
    (hcleared : ∀ task ∈ tasks, task.stage.Cleared r task.token context) :
    ∀ x ∈ settlements events, x.Sound r := by
  induction h with
  | refl => simp
  | @turn before after tasks' token stage next s u s' visits visits' events events' hturn _ ih =>
      obtain ⟨hnext, hsound⟩ := hturn.sound (hcleared ⟨token, stage⟩ (by simp))
      intro x hx
      rw [settlements_append, List.mem_append] at hx
      rcases hx with hx | hx
      · exact hsound x hx
      · refine ih (fun task htask => ?_) x hx
        rcases List.mem_append.mp htask with hm | hm
        · exact hcleared task (by simp [hm])
        · rcases List.mem_cons.mp hm with rfl | hm
          · exact hnext
          · exact hcleared task (by simp [hm])

/-- Accounts that turns keep in balance are equal from the start of all tasks to their ends. -/
theorem Works.accounts_eq (gain spend : Measure) (has : Stage → Nat) (hwaiting : has .waiting = 0)
    (hends : ∀ answer, has (.ended answer) = 0)
    (h : r.Works context (tokens.map fun token => { token }) s visits events tasks s')
    (hended : ∀ task ∈ tasks, task.hasEnded = true) {cached : Bool}
    (hcached : s.cache.isSome = cached)
    (hstep : ∀ {token stage next s u visits events},
      stage.Advances r token context s visits events next u → s.cache.isSome = cached →
        gain visits events + has next = spend visits events + has stage) :
    gain visits events = spend visits events := by
  have hbalance := h.balance Eq (fun _ => rfl) (by omega) gain spend (fun _ stage => has stage)
    hcached hstep
  have hlast : (tasks.map fun task => has task.stage) = tasks.map fun _ => 0 := by
    apply List.map_congr_left
    intro task htask
    obtain ⟨answer, hanswer⟩ := Stage.hasEnded_iff.mp (hended task htask)
    rw [hanswer, hends]
  simpa [hlast, hwaiting, Function.comp_def] using hbalance

/-! ## Texts -/

/-- Neither the gate nor a value of a custom resolver nor the refusal nor the cache has settled the
token. -/
def isLeft (r : Resolver σ) (visits : List Visit) (x : Settled) : Bool :=
  decide (Passes x.token x.context) && !visits.any (Visit.customValue (· == x.token)) &&
    !r.refuses x.token && !x.answer.isCached

/-- The words under which resolutions are counted. -/
def labels : List String := ["empty", "cache", "custom", "registry"]

/-- What the counters rise by while a text is resolved. -/
structure Balanced (r : Resolver σ) (text : String) (s : State σ) (visits : List Visit)
    (events : List Event) : Prop where
  /-- The single resolutions are one for each key. -/
  keys : ((settlements events).map fun x => x.token.key).Perm
    ((r.delimiter.tokens text).map Token.key).dedup
  /-- The calls of foreign code are those of the visits. -/
  calls : foreignCalls events = visits.map Visit.call
  resolutions : (labels.map fun label => count (.resolutions label) events).sum =
    ((r.delimiter.tokens text).map Token.key).dedup.length
  labelled : ∀ label ∉ labels, count (.resolutions label) events = 0
  empty : count (.resolutions "empty") events =
    (settlements events).countP fun x => x.answer.isEmpty
  cache : count (.resolutions "cache") events =
    (settlements events).countP fun x => x.answer.isCached
  /-- The values of custom resolvers. -/
  custom : count (.resolutions "custom") events = visits.countP (Visit.customValue fun _ => true)
  /-- The fresh values of handlers. -/
  registry : count (.resolutions "registry") events = visits.countP Visit.handlerValue
  hits : count .hits events = count (.resolutions "cache") events
  misses : count .misses events =
    if s.cache.isSome then (settlements events).countP (r.isLeft visits) else 0
  failures : ∀ expansion,
    count (.failures expansion) events = visits.countP (Visit.failedFor expansion)

theorem onePerKey_keys (tokens : List Token) :
    ((onePerKey tokens.reverse).map Token.key).Perm (tokens.map Token.key).dedup := by
  have hnodup : ((onePerKey tokens.reverse).map Token.key).Nodup :=
    List.pairwise_map.mpr (onePerKey_pairwise _)
  rw [List.perm_ext_iff_of_nodup hnodup (List.nodup_dedup _)]
  intro key
  rw [List.mem_dedup, List.mem_map, List.mem_map]
  constructor
  · rintro ⟨t, ht, rfl⟩
    exact ⟨t, List.mem_reverse.mp (onePerKey_subset ht), rfl⟩
  · rintro ⟨t, ht, rfl⟩
    exact exists_mem_onePerKey (List.mem_reverse.mpr ht)

theorem sum_labels (trace : List Settled) :
    (labels.map fun label => trace.countP fun x => x.origin.label == label).sum =
      trace.length := by
  induction trace with
  | nil => rfl
  | cons x trace ih =>
      have hone : (labels.map fun label => if (x.origin.label == label) = true then 1 else 0).sum =
          1 := by
        cases x.origin <;> decide
      simp only [labels, List.map_cons, List.map_nil, List.sum_cons, List.sum_nil,
        List.countP_cons, List.length_cons] at ih hone ⊢
      omega

/-- A resolution of a sound run is left to the source if it came so far, and only then. -/
theorem bySource_eq_isLeft {trace : List Settled} {x : Settled} (hx : x ∈ trace) (hs : x.Sound r)
    (hkeys : (trace.map Settled.token).Pairwise fun t u => t.key ≠ u.key)
    (hcustom : trace.countP (Settled.byCustom (· == x.token)) =
      visits.countP (Visit.customValue (· == x.token))) :
    x.bySource = r.isLeft visits x := by
  have hany : visits.any (Visit.customValue (· == x.token)) = (x.origin == .custom) := by
    rw [Bool.eq_iff_iff, List.any_eq_true, ← List.countP_pos_iff, ← hcustom, List.countP_pos_iff,
      beq_iff_eq]
    constructor
    · rintro ⟨y, hy, hby⟩
      obtain ⟨horigin, htoken⟩ : y.origin = .custom ∧ y.token = x.token := by
        simpa [Settled.byCustom] using hby
      have hmem : y ∈ trace.filter fun z => z.token.key == x.token.key :=
        List.mem_filter.mpr ⟨hy, by simp [htoken]⟩
      rw [filter_key_eq hkeys hx, List.mem_singleton] at hmem
      exact hmem ▸ horigin
    · exact fun horigin => ⟨x, hx, by simp [Settled.byCustom, horigin]⟩
  unfold isLeft
  rw [hany]
  cases hs <;> simp_all [Settled.bySource, Answer.isCached]

theorem Resolved.balanced (h : r.Resolved tokens fallback text context s visits events out s')
    (hperm : tokens.Perm (onePerKey (r.delimiter.tokens text).reverse)) :
    r.Balanced text s visits events := by
  have hsettled := h.tokens_perm.trans hperm
  have hpairwise := (hsettled.pairwise_iff fun {t u} (h : t.key ≠ u.key) => h.symm).mpr
    (onePerKey_pairwise _)
  obtain ⟨tasks, hworks, hended⟩ := h.works
  have hsound : ∀ x ∈ settlements events, x.Sound r :=
    hworks.sound fun task htask => by
      obtain ⟨token, -, rfl⟩ := List.mem_map.mp htask
      trivial
  have hkeys : ((settlements events).map fun x => x.token.key).Perm
      ((r.delimiter.tokens text).map Token.key).dedup := by
    have hmap := hsettled.map Token.key
    rw [List.map_map] at hmap
    exact hmap.trans (onePerKey_keys _)
  have hcustom : ∀ p, (settlements events).countP (Settled.byCustom p) =
      visits.countP (Visit.customValue p) := fun p =>
    hworks.accounts_eq (.ofSettled (Settled.byCustom p)) (.ofVisits (Visit.customValue p))
      (fun _ => 0) rfl (fun _ => rfl) hended rfl fun hturn _ => by
        simpa using hturn.settled_custom p
  constructor
  case keys => exact hkeys
  case calls => exact hworks.foreignCalls_eq
  case resolutions =>
    simp only [count_resolutions]
    rw [sum_labels, ← hkeys.length_eq, List.length_map]
  case labelled =>
    intro label hlabel
    rw [count_resolutions, List.countP_eq_zero]
    intro x _ hx
    apply hlabel
    rw [← beq_iff_eq.mp hx]
    cases x.origin <;> decide
  case empty =>
    rw [count_resolutions]
    exact List.countP_congr fun x hx => by rw [(hsound x hx).label_eq_empty]
  case cache =>
    rw [count_resolutions]
    exact List.countP_congr fun x hx => by rw [(hsound x hx).label_eq_cache]
  case custom =>
    rw [count_resolutions, ← hcustom]
    exact List.countP_congr fun x _ => by rw [Origin.label_eq_custom, Settled.byCustom,
      Bool.and_true]
  case registry =>
    simp only [count_resolutions, Origin.label_eq_registry]
    exact hworks.accounts_eq (.ofSettled fun x => x.origin == .registry)
      (.ofVisits Visit.handlerValue) (fun stage => stage.isMade.toNat) rfl (fun _ => rfl) hended rfl
      fun hturn _ => by simpa using hturn.settled_registry
  case hits =>
    simp only [count_resolutions, Origin.label_eq_cache]
    exact hworks.accounts_eq (.ofCounter .hits) (.ofSettled fun x => x.origin == .cache)
      (fun _ => 0) rfl (fun _ => rfl) hended rfl fun hturn _ => by simpa using hturn.hits_eq
  case misses =>
    cases hcached : s.cache.isSome with
    | false =>
        exact hworks.accounts_eq (.ofCounter .misses) .none (fun _ => 0) rfl (fun _ => rfl) hended
          hcached fun hturn hc => by simpa using hturn.misses_eq_zero hc
    | true =>
        have hsource := hworks.accounts_eq (.ofSettled Settled.bySource) (.ofCounter .misses)
          (fun stage => stage.isBehindCache.toNat) rfl (fun _ => rfl) hended hcached
          fun hturn hc => by simpa using hturn.misses_eq hc
        rw [if_pos rfl]
        refine hsource.symm.trans (List.countP_congr fun x hx => ?_)
        rw [bySource_eq_isLeft hx (hsound x hx) hpairwise (hcustom _)]
  case failures =>
    intro expansion
    exact hworks.accounts_eq (.ofCounter (.failures expansion))
      (.ofVisits (Visit.failedFor expansion)) (fun _ => 0) rfl (fun _ => rfl) hended rfl
      fun hturn _ => by simpa using hturn.failures_eq expansion

/-- The counters balance for every text and from every state, whether it is resolved by a pass, by
tasks in any order, or by tasks that have any turns. -/
theorem counters_balance (hr : r.Calm) (hs : Customs.Direct s.customs) (text : String)
    (context : Context) :
    (∃ visits events out s',
      r.resolve text context s = ⟨.ok out, s', events⟩ ∧
      r.Resolved (onePerKey (r.delimiter.tokens text).reverse) r.fallback text context s visits
        events out s' ∧
      r.Balanced text s visits events) ∧
    (∀ schedule : Schedule, ∃ visits events out s',
      r.resolveInOrder schedule.order text context s = ⟨.ok out, s', events⟩ ∧
      r.Resolved (schedule.order (onePerKey (r.delimiter.tokens text).reverse)) r.fallback text
        context s visits events out s' ∧
      r.Balanced text s visits events) ∧
    ∀ turns, ∃ visits events out s',
      r.resolveInTurns turns text context s = ⟨.ok out, s', events⟩ ∧
      r.Resolved (onePerKey (r.delimiter.tokens text).reverse) r.fallback text context s visits
        events out s' ∧
      r.Balanced text s visits events := by
  refine ⟨?_, fun schedule => ?_, fun turns => ?_⟩
  · obtain ⟨visits, events, out, s', hrun, hresolved⟩ :=
      resolveWithFallback_resolved hr hs text context r.fallback
    exact ⟨visits, events, out, s', hrun, hresolved, hresolved.balanced (.refl _)⟩
  · obtain ⟨visits, events, out, s', hrun, hresolved⟩ :=
      resolveInOrder_resolved hr hs schedule text context
    exact ⟨visits, events, out, s', hrun, hresolved, hresolved.balanced (schedule.perm _)⟩
  · obtain ⟨visits, events, out, s', hrun, hresolved⟩ :=
      resolveInTurns_resolved hr hs turns text context
    exact ⟨visits, events, out, s', hrun, hresolved, hresolved.balanced (.refl _)⟩

end Resolver

def panicking : Resolver Unit :=
  (Registry.single { expansion := "a", pattern := .any, run := fun _ host =>
    (.panic "handler", host) }).toResolver

/-- A state with a cache and a custom resolver of the same expansion, which fails. -/
def failingFirst : State Unit :=
  ((State.withEmptyCache 2 ⟨0⟩ ()).registerCustom "a" fun _ _ host =>
    .finish (.failure (.handler "custom")) host).2

theorem panicking_balanced :
    panicking.Calm ∧ Customs.Direct failingFirst.customs ∧
    ∃ visits events out s',
      panicking.resolve "%a_b% %c_d% %a_b%" .empty failingFirst = ⟨.ok out, s', events⟩ ∧
      panicking.Balanced "%a_b% %c_d% %a_b%" failingFirst visits events := by
  have hcalm : panicking.Calm := by
    intro source hsource
    exact ⟨_, (Option.some.inj hsource).symm, Registry.single_calm _⟩
  have hdirect : Customs.Direct failingFirst.customs := by
    intro name custom hfind context identifier host
    have hmem := Table.mem_entries_of_find? hfind
    obtain ⟨-, rfl⟩ : name = Text.foldCase "a" ∧ custom = _ := by
      simpa [failingFirst, State.registerCustom, Customs.register, Table.insert, Table.erase,
        Table.filter, State.withEmptyCache, State.initial, Table.empty] using hmem
    exact ⟨_, _, rfl⟩
  obtain ⟨⟨visits, events, out, s', hrun, -, hbalanced⟩, -, -⟩ :=
    Resolver.counters_balance hcalm hdirect "%a_b% %c_d% %a_b%" .empty
  exact ⟨hcalm, hdirect, visits, events, out, s', hrun, hbalanced⟩

/-- Both failures for one token are counted. -/
example :
    tally (panicking.resolve "%a_b%" .empty failingFirst).events =
      [(.failures "a", 2), (.misses, 1), (.resolutions "empty", 1)] := by
  decide +kernel

end Placeholder
