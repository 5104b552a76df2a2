import Placeholder.Proofs.Histories
import Mathlib.Data.List.Perm.Subperm

/-!
# Which answers are cached ones

The cache of a resolver with a registry agrees with the history of the run, as long as it has room
and the clock does not go back. A resolution that comes to the cache therefore has a cached answer
exactly if the value made last for the same is still in use and fresh, and the cached answer is this
value.
-/
namespace Placeholder

variable {σ : Type}

/-- An entry under a key agrees with what a history says about the key. There may be no entry for a
value that is stale. -/
inductive Mirrors (ttl : Ttl) (now : UInt64) : Option Entry → Option (String × UInt64) → Prop
  | nothing : Mirrors ttl now none none
  | kept (value : String) (written : UInt64) :
      Mirrors ttl now (some ⟨value, written, ttl⟩) (some (value, written))
  | stale (value : String) {written : UInt64} : ttl.isExpired written now = true →
      Mirrors ttl now none (some (value, written))

namespace Mirrors

variable {ttl : Ttl} {now : UInt64} {found : Option Entry} {last : Option (String × UInt64)}

theorem later {next : UInt64} (h : Mirrors ttl now found last) (hle : now.toNat ≤ next.toNat) :
    Mirrors ttl next found last := by
  cases h with
  | nothing => exact .nothing
  | kept value written => exact .kept value written
  | stale value hstale => exact .stale value (Ttl.isExpired_mono hstale hle)

theorem dropped (h : Mirrors ttl now found last)
    (hstale : ∀ entry, found = some entry → entry.isStale now = true) :
    Mirrors ttl now none last := by
  cases h with
  | nothing => exact .nothing
  | kept value written => exact .stale value (hstale _ rfl)
  | stale value h => exact .stale value h

theorem fresh_iff (h : Mirrors ttl now found last) (value : String) :
    (∃ entry, found = some entry ∧ entry.isStale now = false ∧ entry.value = value) ↔
      ∃ written, last = some (value, written) ∧ ttl.isExpired written now = false := by
  cases h with
  | nothing => simp
  | kept v w =>
      constructor
      · intro h
        obtain ⟨entry, he, hfresh, rfl⟩ := h
        cases he
        exact ⟨w, rfl, hfresh⟩
      · intro h
        obtain ⟨written, he, hfresh⟩ := h
        cases he
        exact ⟨_, rfl, hfresh, rfl⟩
  | stale v hstale =>
      constructor
      · intro h
        obtain ⟨entry, he, -⟩ := h
        cases he
      · intro h
        obtain ⟨written, he, hfresh⟩ := h
        cases he
        rw [hstale] at hfresh
        cases hfresh

end Mirrors

/-- The cache holds what the history says. -/
structure Faithful (g : Registry σ) (past : List Happening) (cache : Cache) : Prop where
  mirrors : ∀ (token : Token) (context : Context), token.Parsed → Passes token context →
    Mirrors (g.ttl token.expansion token.identifier) cache.clock.now
      (cache.entries.find? (Key.ofToken token context)) (latest (Key.ofToken token context) past)
  holds : ∀ key, (cache.entries.find? key).isSome = true → key ∈ held g past

namespace Faithful

variable {g : Registry σ} {past : List Happening} {cache : Cache}

theorem empty (g : Registry σ) (capacity : UInt64) (clock : Clock) :
    Faithful g [] (Cache.empty capacity clock) where
  mirrors _ _ _ _ := .nothing
  holds key h := by simp [Cache.empty] at h

theorem moved (h : Faithful g past cache) {clock : Clock}
    (hle : cache.clock.now.toNat ≤ clock.now.toNat) : Faithful g past { cache with clock } where
  mirrors token context ht hc := (h.mirrors token context ht hc).later hle
  holds := h.holds

theorem concat_of_spares (h : Faithful g past cache) {x : Happening} (hspares : ∀ key, x.Spares key)
    (hhold : hold g (held g past) x = held g past) : Faithful g (past ++ [x]) cache where
  mirrors token context ht hc := by
    rw [latest_concat, hspares]
    exact h.mirrors token context ht hc
  holds key hkey := by
    rw [held_concat, hhold]
    exact h.holds key hkey

theorem concat_of_drops (h : Faithful g past cache) {x : Happening} {cache' : Cache}
    (drops : Key → Bool) (hclock : cache'.clock = cache.clock)
    (hfind : ∀ k, cache'.entries.find? k = if drops k then none else cache.entries.find? k)
    (htouch : ∀ k last, x.touch k last = if drops k then none else last)
    (hhold : hold g (held g past) x = (held g past).filter fun k => !drops k) :
    Faithful g (past ++ [x]) cache' where
  mirrors token context ht hc := by
    rw [latest_concat, htouch, hfind, hclock]
    split_ifs
    · exact .nothing
    · exact h.mirrors token context ht hc
  holds key hkey := by
    rw [hfind] at hkey
    rw [held_concat, hhold]
    split_ifs at hkey with hd
    · cases hkey
    · exact List.mem_filter.mpr ⟨h.holds key hkey, by simpa using hd⟩

theorem invalidate (h : Faithful g past cache) (key : Key) :
    Faithful g (past ++ [.invalidated key]) (cache.invalidate key) := by
  have hclock : (cache.invalidate key).clock = cache.clock := rfl
  apply h.concat_of_drops (fun k => decide (k = key)) hclock
  · intro k
    simp [Cache.find?_invalidate]
  · intro k last
    simp [Happening.touch, eq_comm]
  · simp [hold]

theorem invalidateSubject (h : Faithful g past cache) (whom : Subject) :
    Faithful g (past ++ [.forgotten whom]) (cache.invalidateSubject whom) := by
  have hclock : (cache.invalidateSubject whom).clock = cache.clock := rfl
  apply h.concat_of_drops (fun k => k.mentions whom) hclock
  · exact Cache.find?_invalidateSubject cache whom
  · intro k last
    rfl
  · rfl

theorem clear (h : Faithful g past cache) : Faithful g (past ++ [.cleared]) cache.clear := by
  have hclock : cache.clear.clock = cache.clock := rfl
  apply h.concat_of_drops (fun _ => true) hclock
  · intro k
    rfl
  · intro k last
    rfl
  · simp [hold]

theorem missed (h : Faithful g past cache) {key : Key} {cache' : Cache}
    (hget : cache.get key = (none, cache')) : Faithful g past cache' := by
  obtain ⟨hclock, -, hstale, hfind⟩ := Cache.get_none hget
  constructor
  · intro token context ht hc
    have hm := h.mirrors token context ht hc
    rw [hfind, hclock]
    split_ifs with hk
    · rw [hk] at hm ⊢
      exact hm.dropped hstale
    · exact hm
  · intro k hk
    rw [hfind] at hk
    split_ifs at hk
    · cases hk
    · exact h.holds k hk

theorem concat_nothing (h : Faithful g past cache) {x : Settled} (horigin : x.origin = .nothing)
    (hnone : cache.entries.find? x.key = none) (now : UInt64) :
    Faithful g (past ++ [.settled x now]) cache := by
  have hp : x.produced? = none := by simp [Settled.produced?, horigin]
  constructor
  · intro token context ht hc
    rw [latest_concat, Happening.touch, hp]
    exact h.mirrors token context ht hc
  · intro k hk
    rw [held_concat, hold, horigin]
    refine List.mem_filter.mpr ⟨h.holds k hk, ?_⟩
    simp only [ne_eq, decide_not, Bool.not_eq_true', decide_eq_false_iff_not]
    intro h
    subst h
    simp [hnone] at hk

/-- There is room for a new key as long as the keys in use do not outnumber the places. -/
theorem admits_of_room (h : Faithful g past cache) {key : Key}
    (hnone : cache.entries.find? key = none) {others : List Key}
    (hothers : ∀ k ∈ held g past, k ≠ key → k ∈ others)
    (hroom : (key :: others).length ≤ cache.capacity.toNat) : cache.admits key = true := by
  have hkeys : (key :: cache.entries.keys).Nodup := by
    refine List.nodup_cons.mpr ⟨?_, cache.entries.nodup_keys⟩
    intro hk
    obtain ⟨⟨k, entry⟩, hmem, rfl⟩ := List.mem_map.mp hk
    simp [Table.find?_of_mem_entries hmem] at hnone
  have hsub : key :: cache.entries.keys ⊆ key :: others := by
    apply List.cons_subset_cons
    intro k hk
    obtain ⟨⟨k', entry⟩, hmem, rfl⟩ := List.mem_map.mp hk
    have hfind := Table.find?_of_mem_entries hmem
    apply hothers _ (h.holds _ (by rw [hfind]; rfl))
    intro h
    subst h
    simp [hfind] at hnone
  have hle := (List.subperm_of_subset hkeys hsub).length_le
  have hsize : cache.entries.keys.length = cache.entries.size := List.length_map _
  simp only [List.length_cons] at hle hroom
  simp only [Cache.admits, Bool.or_eq_true, decide_eq_true_eq]
  right
  omega

theorem put (h : Faithful g past cache) {x : Settled} (hx : x.Genuine) {value : String}
    (hp : x.produced? = some value) (hnone : cache.entries.find? x.key = none)
    (hroom : (held g (past ++ [.settled x cache.clock.now])).length ≤ cache.capacity.toNat) :
    Faithful g (past ++ [.settled x cache.clock.now])
      (cache.put x.key value (g.ttl x.token.expansion x.token.identifier)) := by
  have horigin : x.origin = .registry := by
    unfold Settled.produced? at hp
    split at hp
    · assumption
    · cases hp
  have hothers : ∀ k ∈ held g past, k ≠ x.key → k ∈ (held g past).filter fun k => k ≠ x.key := by
    intro k hk hne
    exact List.mem_filter.mpr ⟨hk, by simpa using hne⟩
  rw [held_concat, hold, horigin] at hroom
  have hadmits : (g.ttl x.token.expansion x.token.identifier).isNone = false →
      cache.admits x.key = true := by
    intro hn
    simp only [hn, Bool.false_eq_true, if_false] at hroom
    exact h.admits_of_room hnone hothers hroom
  constructor
  · intro token context ht hc
    rw [Cache.find?_put hadmits, Cache.put_clock, latest_concat]
    by_cases hk : Key.ofToken token context = x.key
    · have httl : g.ttl token.expansion token.identifier =
          g.ttl x.token.expansion x.token.identifier :=
        g.ttl_eq_of_key_eq ht hx.parsed hc (hx.passes_of_produced hp) hk
      rw [if_pos hk, Happening.touch_produced hp hk.symm, httl]
      split_ifs with hn
      · exact .stale value (Ttl.isExpired_of_isNone hn _ _)
      · exact .kept value _
    · rw [if_neg hk, Happening.touch_settled_of_ne (Ne.symm hk)]
      exact h.mirrors token context ht hc
  · intro k hk
    rw [Cache.find?_put hadmits] at hk
    rw [held_concat, hold, horigin]
    split_ifs at hk with hkey hn
    · cases hk
    · simp [hkey, hn]
    · have := hothers k (h.holds k hk) hkey
      split_ifs
      · exact this
      · exact List.mem_cons_of_mem _ this

theorem get_eq_some_iff (h : Faithful g past cache) {token : Token} {context : Context}
    (ht : token.Parsed) (hc : Passes token context) (value : String) :
    (cache.get (Key.ofToken token context)).1 = some value ↔
      ∃ written, latest (Key.ofToken token context) past = some (value, written) ∧
        (g.ttl token.expansion token.identifier).isExpired written cache.clock.now = false := by
  rw [Cache.get_fst_eq_some_iff]
  exact (h.mirrors token context ht hc).fresh_iff value

end Faithful

/-! ## One resolution -/

/-- The resolver has a cache of a certain capacity that agrees with the history. -/
def State.Synced (g : Registry σ) (capacity : UInt64) (past : List Happening)
    (s : State σ) : Prop :=
  ∃ cache, s.cache = some cache ∧ cache.capacity = capacity ∧ Faithful g past cache

/-- The keys in use never outnumber the places of the cache. -/
def Roomy (g : Registry σ) (capacity : UInt64) (past : List Happening) (h : Happening) : Prop :=
  (held g (past ++ [h])).length ≤ capacity.toNat

/-- A resolution that comes to the cache has a cached answer exactly if the history has a fresh
value. -/
def Exact (r : Resolver σ) (g : Registry σ) (past : List Happening) : Happening → Prop
  | .settled x now => x.Genuine ∧ (x.AtCache r → ∀ value, x.answer = .cached value ↔
      ∃ written, latest x.key past = some (value, written) ∧
        (g.ttl x.token.expansion x.token.identifier).isExpired written now = false)
  | .invalidated _ | .forgotten _ | .cleared => True

namespace Resolver

variable {r : Resolver σ} {g : Registry σ} {token : Token} {context : Context} {s s' : State σ}
  {events : List Event} {origin : Origin} {answer : Answer}

theorem Settles.genuine (h : r.Settles token context s events origin answer s')
    (ht : token.Parsed) : Settled.Genuine ⟨token, context, origin, answer⟩ := by
  refine ⟨ht, ?_⟩
  intro horigin
  cases h with
  | gate => exact (horigin rfl).elim
  | custom hc => exact hc
  | refusal hc => exact hc
  | hit hreach => exact hreach.passes
  | produced hreach => exact hreach.passes

theorem Settles.cached_iff (h : r.Settles token context s events origin answer s')
    {cache : Cache} (hs : s.cache = some cache)
    (hx : Settled.AtCache r ⟨token, context, origin, answer⟩) (value : String) :
    answer = .cached value ↔ (cache.get (Key.ofToken token context)).1 = some value := by
  cases h with
  | gate hc => exact (hc hx.passes).elim
  | custom => exact (hx.not_custom rfl).elim
  | refusal _ _ hrefuses => simp [hx.allowed] at hrefuses
  | hit _ hcache hget =>
      obtain rfl := Option.some.inj (hs.symm.trans hcache)
      simp [hget]
  | produced _ hmissed hproduces =>
      cases hmissed with
      | uncached hnone =>
          have : s.cache = none := hnone
          simp [hs] at this
      | missed hcache hget =>
          obtain rfl := Option.some.inj (hs.symm.trans hcache)
          rw [hget]
          cases hproduces <;> simp

/-- A resolution keeps the cache in agreement with the history. -/
theorem Settles.synced (h : r.Settles token context s events origin answer s')
    (hsource : r.source = some g.toSource) (ht : token.Parsed) {capacity : UInt64}
    {past : List Happening} (hs : s.Synced g capacity past)
    (hroom : (held g (past ++ [.settled ⟨token, context, origin, answer⟩ s.now])).length ≤
      capacity.toNat) :
    s'.Synced g capacity (past ++ [.settled ⟨token, context, origin, answer⟩ s.now]) ∧
      s'.now = s.now := by
  have hx := h.genuine ht
  obtain ⟨cache, hcache, hcapacity, hfaithful⟩ := hs
  have hnow : s.now = cache.clock.now := by simp [State.now, hcache]
  rw [hnow] at hroom ⊢
  cases h with
  | gate | custom | refusal =>
      refine ⟨⟨cache, hcache, hcapacity, ?_⟩, hnow⟩
      exact hfaithful.concat_of_spares (fun _ _ => rfl) rfl
  | hit _ hc hget =>
      obtain rfl := Option.some.inj (hcache.symm.trans hc)
      obtain rfl := Cache.get_hit hget
      exact ⟨⟨_, rfl, hcapacity, hfaithful.concat_of_spares (fun _ _ => rfl) rfl⟩, rfl⟩
  | produced _ hmissed hproduces =>
      cases hmissed with
      | uncached hnone =>
          have : s.cache = none := hnone
          simp [hcache] at this
      | @missed old cache' hc hget =>
          obtain rfl := Option.some.inj (hcache.symm.trans hc)
          obtain ⟨hclock, hsame, -, hfind⟩ := Cache.get_none hget
          have hnone : cache'.entries.find? (Settled.key ⟨token, context, origin, answer⟩) = none :=
            (hfind _).trans (if_pos rfl)
          have hfaithful' := hfaithful.missed hget
          rw [← hclock] at hroom ⊢
          cases hproduces with
          | sourceless hnosource => simp [hsource] at hnosource
          | nothing =>
              refine ⟨⟨cache', rfl, hsame.trans hcapacity, ?_⟩, rfl⟩
              exact hfaithful'.concat_nothing rfl hnone _
          | @fresh source text _ _ hsame' =>
              obtain rfl := Option.some.inj (hsource.symm.trans hsame')
              rw [← hsame.trans hcapacity] at hroom
              refine ⟨⟨_, rfl, ?_, hfaithful'.put hx rfl hnone hroom⟩, ?_⟩
              · rw [Cache.put_capacity, hsame, hcapacity]
              · simp [State.now, State.keep]

theorem Settles.exact (h : r.Settles token context s events origin answer s')
    (ht : token.Parsed) {capacity : UInt64} {past : List Happening}
    (hs : s.Synced g capacity past) :
    Exact r g past (.settled ⟨token, context, origin, answer⟩ s.now) := by
  have hx := h.genuine ht
  obtain ⟨cache, hcache, -, hfaithful⟩ := hs
  have hnow : s.now = cache.clock.now := by simp [State.now, hcache]
  refine ⟨hx, ?_⟩
  intro hat value
  rw [hnow]
  exact (h.cached_iff hcache hat value).trans
    (hfaithful.get_eq_some_iff ht hat.passes value)

/-! ## Runs -/

theorem Trace.synced {trace : List Settled} (h : r.Trace context s trace s')
    (hsource : r.source = some g.toSource) {capacity : UInt64} {past : List Happening}
    (hparsed : ∀ x ∈ trace, x.token.Parsed) (hs : s.Synced g capacity past)
    (hroom : Throughout (Roomy g capacity) past (trace.map (Happening.settled · s.now))) :
    s'.Synced g capacity (past ++ trace.map (Happening.settled · s.now)) ∧ s'.now = s.now ∧
      Throughout (Exact r g) past (trace.map (Happening.settled · s.now)) := by
  induction h generalizing past with
  | nil s => exact ⟨by simpa using hs, rfl, .nil⟩
  | @cons s u s' token events origin answer trace hsettles _ ih =>
      obtain ⟨hfirst, hrest⟩ := Throughout.cons_iff.mp hroom
      have ht : token.Parsed := hparsed _ List.mem_cons_self
      obtain ⟨hu, hnow⟩ := hsettles.synced hsource ht hs hfirst
      rw [← hnow] at hrest hu
      obtain ⟨hs', hnow', hexact⟩ := ih (fun x hx => hparsed x (List.mem_cons_of_mem _ hx)) hu hrest
      rw [hnow] at hs' hexact hnow'
      refine ⟨?_, hnow', Throughout.cons_iff.mpr ⟨hsettles.exact ht hs, hexact⟩⟩
      simpa using hs'

end Resolver

theorem State.Synced.onCache {g : Registry σ} {capacity : UInt64} {past future : List Happening}
    {s : State σ} (hs : s.Synced g capacity past) (f : Cache → Cache)
    (hcapacity : ∀ cache, (f cache).capacity = cache.capacity)
    (hf : ∀ cache, s.cache = some cache → Faithful g past cache → Faithful g future (f cache)) :
    (s.onCache f).Synced g capacity future := by
  obtain ⟨cache, hcache, hsame, hfaithful⟩ := hs
  refine ⟨f cache, ?_, (hcapacity cache).trans hsame, hf cache hcache hfaithful⟩
  exact congrArg (Option.map f) hcache

theorem State.Synced.moved {g : Registry σ} {capacity : UInt64} {past : List Happening}
    {s : State σ} (hs : s.Synced g capacity past) (f : Clock → Clock)
    (hforward : s.now.toNat ≤
      (s.onCache fun cache => { cache with clock := f cache.clock }).now.toNat) :
    (s.onCache fun cache => { cache with clock := f cache.clock }).Synced g capacity past := by
  apply hs.onCache
  · intro cache
    rfl
  · intro cache hcache hfaithful
    apply hfaithful.moved
    simpa [State.now, State.onCache, hcache] using hforward

/-- A call keeps the cache in agreement with the history, and its resolutions are as the history
says. -/
theorem Call.synced {r : Resolver σ} (hr : r.Returns) {g : Registry σ}
    (hsource : r.source = some g.toSource) {capacity : UInt64} {past : List Happening}
    {s : State σ} (hs : s.Synced g capacity past) (hcustoms : Customs.Direct s.customs)
    (call : Call σ) (hforward : s.now.toNat ≤ (call.perform r s).state.now.toNat)
    (hroom : Throughout (Roomy g capacity) past
      (call.happenings s.now (call.perform r s).events)) :
    (call.perform r s).state.Synced g capacity
        (past ++ call.happenings s.now (call.perform r s).events) ∧
      Throughout (Exact r g) past (call.happenings s.now (call.perform r s).events) := by
  have hone : ∀ {h : Happening}, Exact r g past h → Throughout (Exact r g) past [h] :=
    fun hh => Throughout.cons_iff.mpr ⟨hh, .nil⟩
  cases call with
  | ask query =>
      obtain ⟨reply, s', events, trace, hrun, rfl, htrace, hgives⟩ :=
        query.perform_traces hr hcustoms
      simp only [perform, hrun, happenings] at hroom ⊢
      obtain ⟨hs', -, hexact⟩ := htrace.synced hsource hgives.parsed hs hroom
      exact ⟨hs', hexact⟩
  | register | unregister =>
      refine ⟨?_, .nil⟩
      rw [happenings, List.append_nil]
      exact hs
  | invalidate key =>
      refine ⟨?_, hone trivial⟩
      exact hs.onCache _ (fun _ => rfl) fun cache _ h => h.invalidate key
  | invalidateSubject whom =>
      refine ⟨?_, hone trivial⟩
      exact hs.onCache _ (fun _ => rfl) fun cache _ h => h.invalidateSubject whom
  | clear =>
      refine ⟨?_, hone trivial⟩
      exact hs.onCache _ (fun _ => rfl) fun cache _ h => h.clear
  | advance span =>
      refine ⟨?_, .nil⟩
      rw [happenings, List.append_nil]
      exact hs.moved (fun clock => clock.advance span) hforward
  | setClock reading =>
      refine ⟨?_, .nil⟩
      rw [happenings, List.append_nil]
      exact hs.moved (fun clock => clock.set reading) hforward

theorem Resolver.run_exact {r : Resolver σ} (hr : r.Returns) {g : Registry σ}
    (hsource : r.source = some g.toSource) {capacity : UInt64} (calls : List (Call σ)) :
    ∀ {past : List Happening} {s : State σ}, s.Synced g capacity past →
      Customs.Direct s.customs → (∀ call ∈ calls, call.Direct) → r.Forward calls s →
      Throughout (Roomy g capacity) past (r.run calls s).history →
      Throughout (Exact r g) past (r.run calls s).history := by
  induction calls with
  | nil =>
      intro past s _ _ _ _ _
      exact .nil
  | cons call rest ih =>
      intro past s hs hcustoms hdirect hforward hroom
      obtain ⟨hcall, hrest⟩ := List.forall_mem_cons.mp hdirect
      obtain ⟨hnow, hlater⟩ := hforward
      obtain ⟨hfirst, hsecond⟩ := Throughout.append_iff.mp hroom
      obtain ⟨hs', hexact⟩ := call.synced hr hsource hs hcustoms hnow hfirst
      exact Throughout.append_iff.mpr
        ⟨hexact, ih hs' (hcall.perform hr hcustoms) hrest hlater hsecond⟩

/-- Over whole runs, a resolution that comes to the cache has a cached answer exactly if the value
made last for the same question and the same subjects has not been dropped since and is younger than
its time to live. -/
theorem Resolver.cached_iff_fresh {r : Resolver σ} {g : Registry σ}
    (hsource : r.source = some g.toSource) (hg : g.Calm) (capacity : UInt64) (clock : Clock)
    (host : σ) (calls : List (Call σ)) (hdirect : ∀ call ∈ calls, call.Direct)
    (hforward : r.Forward calls (.withEmptyCache capacity clock host))
    (hroom : ∀ older newer,
      (r.run calls (.withEmptyCache capacity clock host)).history = older ++ newer →
      (held g older).length ≤ capacity.toNat)
    {before after : List Happening} {x : Settled} {now : UInt64}
    (hsplit : (r.run calls (.withEmptyCache capacity clock host)).history =
      before ++ .settled x now :: after)
    (hat : x.AtCache r) (value : String) :
    x.answer = .cached value ↔ ∃ older newer y written,
      before = older ++ .settled y written :: newer ∧ y.produced? = some value ∧ y.ask = x.ask ∧
      (∀ h ∈ newer, ¬ h.Ends x.token x.context) ∧
      now.toNat - written.toNat < (g.ttl x.token.expansion x.token.identifier).millis.toNat := by
  have hr : r.Returns := Resolver.forall_source hsource hg.returns
  have hexact : Throughout (Exact r g) []
      (r.run calls (.withEmptyCache capacity clock host)).history := by
    apply run_exact hr hsource calls _ _ hdirect hforward
    · intro past h rest hhistory
      exact hroom (past ++ [h]) rest (by simp [hhistory])
    · exact ⟨_, rfl, rfl, .empty g capacity clock⟩
    · exact Customs.forall_empty
  have hgenuine : ∀ h ∈ before, h.Genuine := by
    intro h hh
    obtain ⟨first, last, rfl⟩ := List.append_of_mem hh
    have := hexact first h (last ++ .settled x now :: after) (by simp [hsplit])
    cases h with
    | settled y _ => exact this.1
    | _ => trivial
  obtain ⟨hx, hiff⟩ := hexact before _ after hsplit
  have hlatest := latest_key_eq_some_iff hx hat.passes hgenuine
  have hfresh : ∀ written : UInt64,
      (g.ttl x.token.expansion x.token.identifier).isExpired written now = false ↔
        now.toNat - written.toNat < (g.ttl x.token.expansion x.token.identifier).millis.toNat := by
    intro written
    simp [Ttl.isExpired]
  rw [hiff hat value]
  constructor
  · intro h
    obtain ⟨written, hlast, hw⟩ := h
    obtain ⟨older, newer, y, he, hp, hask, hends⟩ := (hlatest value written).mp hlast
    exact ⟨older, newer, y, written, he, hp, hask, hends, (hfresh written).mp hw⟩
  · intro h
    obtain ⟨older, newer, y, written, he, hp, hask, hends, hw⟩ := h
    exact ⟨written, (hlatest value written).mpr ⟨older, newer, y, he, hp, hask, hends⟩,
      (hfresh written).mpr hw⟩

def oneHandler : Registry Unit := .single (.constant "a" .second "v")

def oneState : State Unit := .withEmptyCache 1 ⟨0⟩ ()

def askedAgain : List (Call Unit) :=
  [.ask (.resolvePlaceholder "a_b" .empty), .ask (.resolvePlaceholder "a_b" .empty)]

def firstAsked : Settled := ⟨⟨0, 3, "a", "b", false⟩, .empty, .registry, .value "v"⟩

def secondAsked : Settled := ⟨⟨0, 3, "a", "b", false⟩, .empty, .cache, .cached "v"⟩

set_option maxRecDepth 2000 in
theorem askedAgain_history : (oneHandler.toResolver.run askedAgain oneState).history =
    [.settled firstAsked 0, .settled secondAsked 0] := by
  with_unfolding_all rfl

theorem askedAgain_forward : oneHandler.toResolver.Forward askedAgain oneState :=
  ⟨by decide +kernel, by decide +kernel, trivial⟩

theorem askedAgain_roomy (older newer : List Happening)
    (h : [Happening.settled firstAsked 0, .settled secondAsked 0] = older ++ newer) :
    (held oneHandler older).length ≤ (1 : UInt64).toNat := by
  rcases older with _ | ⟨a, _ | ⟨b, _ | ⟨c, older⟩⟩⟩
  · decide +kernel
  · cases h
    decide +kernel
  · cases h
    decide +kernel
  · simp at h

/-- The second answer is cached because the first is fresh. -/
theorem askedAgain_cached :
    oneHandler.Calm ∧ (∀ call ∈ askedAgain, call.Direct) ∧
      oneHandler.toResolver.Forward askedAgain oneState ∧ secondAsked.AtCache oneHandler.toResolver ∧
      ∃ older newer y written, [.settled firstAsked 0] = older ++ .settled y written :: newer ∧
        y.produced? = some "v" ∧ y.ask = secondAsked.ask ∧
        (∀ h ∈ newer, ¬ Happening.Ends secondAsked.token secondAsked.context h) ∧
        (0 : UInt64).toNat - written.toNat < (oneHandler.ttl secondAsked.token.expansion
          secondAsked.token.identifier).millis.toNat := by
  have hcalm : oneHandler.Calm := Registry.single_calm _
  have hdirect : ∀ call ∈ askedAgain, call.Direct := by simp [askedAgain, Call.Direct]
  have hat : secondAsked.AtCache oneHandler.toResolver := ⟨nofun, nofun, by decide +kernel⟩
  refine ⟨hcalm, hdirect, askedAgain_forward, hat, ?_⟩
  have hroom : ∀ older newer, (oneHandler.toResolver.run askedAgain oneState).history = older ++ newer →
      (held oneHandler older).length ≤ (1 : UInt64).toNat :=
    fun older newer h => askedAgain_roomy older newer (askedAgain_history.symm.trans h)
  exact (@Resolver.cached_iff_fresh Unit oneHandler.toResolver oneHandler rfl hcalm 1 ⟨0⟩ () askedAgain
    hdirect askedAgain_forward hroom [.settled firstAsked 0] [] secondAsked 0 askedAgain_history
    hat "v").mp rfl

end Placeholder
