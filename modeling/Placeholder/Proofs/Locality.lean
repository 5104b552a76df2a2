import Placeholder.Proofs.Calls
import Placeholder.Proofs.Steadiness
import Mathlib.Data.Finset.Card

/-!
# What a resolution depends on

Of the cache a single resolution reads and writes nothing but what is under its own key. If foreign
code is steady, its answer and what it leaves under the key are therefore settled by the custom
resolvers in use, the clock, and what was under the key before. Two states that agree on these are
the same for it.
-/
namespace Placeholder

variable {σ : Type}

namespace State

/-- What the cache holds under a key. -/
def slot? (s : State σ) (key : Key) : Option Entry :=
  s.cache.bind fun cache => cache.entries.find? key

/-- The value that the cache may serve for a key. -/
def kept? (s : State σ) (key : Key) : Option String :=
  (s.slot? key).bind fun entry => if entry.isStale s.now then none else some entry.value

/-- The number of entries that can be held; none without a cache. -/
def places (s : State σ) : Nat := (s.cache.map fun cache => cache.capacity.toNat).getD 0

/-- The keys under which the cache holds something. -/
def keys (s : State σ) : Finset Key :=
  (s.cache.map fun cache => cache.entries.keys.toFinset).getD ∅

/-- There is a place for a key beside the other ones. -/
def HasRoom (s : State σ) (key : Key) : Prop := s.places = 0 ∨ (s.keys.erase key).card < s.places

theorem mem_keys_iff {s : State σ} {key : Key} : key ∈ s.keys ↔ (s.slot? key).isSome = true := by
  unfold keys slot?
  cases s.cache with
  | none => simp
  | some cache => simp [Table.keys, Option.isSome_iff_exists, Table.find?_eq_some_iff]

theorem HasRoom.mono {s u : State σ} {key : Key} (h : s.HasRoom key) (hplaces : u.places = s.places)
    (hsub : ∀ k ∈ u.keys, k ≠ key → k ∈ s.keys) : u.HasRoom key := by
  rcases h with h | h
  · exact .inl (hplaces.trans h)
  · right
    rw [hplaces]
    refine (Finset.card_le_card ?_).trans_lt h
    intro k hk
    obtain ⟨hne, hmem⟩ := Finset.mem_erase.mp hk
    exact Finset.mem_erase.mpr ⟨hne, hsub k hmem hne⟩

/-- If all keys that are ever held have their places, each of them has room. -/
theorem hasRoom_of_subset {s : State σ} {key : Key} {all : Finset Key} (hkey : key ∈ all)
    (hsub : s.keys ⊆ all) (hcard : all.card ≤ s.places) : s.HasRoom key := by
  right
  have hless := Finset.card_lt_card (Finset.erase_ssubset hkey)
  exact (Finset.card_le_card (Finset.erase_subset_erase key hsub)).trans_lt (hless.trans_le hcard)

/-! ## Agreement -/

/-- Two states have the same custom resolvers, the same clock, the same places, and under some keys
the same entries. -/
structure Agree (p : Key → Prop) (s u : State σ) : Prop where
  customs : u.customs = s.customs
  clock : u.cache.map Cache.clock = s.cache.map Cache.clock
  places : u.places = s.places
  entry : ∀ key, p key → u.slot? key = s.slot? key

/-- Nothing but what is under one key has changed. -/
abbrev Touches (key : Key) (s u : State σ) : Prop := Agree (fun k => k ≠ key) s u

namespace Agree

variable {p q : Key → Prop} {s u v : State σ}

theorem refl (p : Key → Prop) (s : State σ) : Agree p s s := ⟨rfl, rfl, rfl, fun _ _ => rfl⟩

theorem symm (h : Agree p s u) : Agree p u s :=
  ⟨h.customs.symm, h.clock.symm, h.places.symm, fun key hkey => (h.entry key hkey).symm⟩

theorem trans (h : Agree p s u) (h' : Agree p u v) : Agree p s v :=
  ⟨h'.customs.trans h.customs, h'.clock.trans h.clock, h'.places.trans h.places,
    fun key hkey => (h'.entry key hkey).trans (h.entry key hkey)⟩

theorem mono (h : Agree p s u) (hpq : ∀ key, q key → p key) : Agree q s u :=
  ⟨h.customs, h.clock, h.places, fun key hkey => h.entry key (hpq key hkey)⟩

theorem now (h : Agree p s u) : u.now = s.now := by
  have hreading := congrArg (Option.map Clock.now) h.clock
  simp only [Option.map_map] at hreading
  exact congrArg (fun reading => reading.getD 0) hreading

theorem kept?_eq (h : Agree p s u) {key : Key} (hkey : p key) : u.kept? key = s.kept? key := by
  unfold kept?
  rw [h.entry key hkey, h.now]

theorem mem_keys_iff (h : Agree p s u) {key : Key} (hkey : p key) :
    key ∈ u.keys ↔ key ∈ s.keys := by
  rw [State.mem_keys_iff, State.mem_keys_iff, h.entry key hkey]

theorem hasRoom {key : Key} (h : Touches key s u) (hroom : s.HasRoom key) : u.HasRoom key :=
  hroom.mono h.places fun _ hk hne => (h.mem_keys_iff hne).mp hk

end Agree

theorem touches_host (key : Key) (s : State σ) (host : σ) : Touches key s { s with host } :=
  ⟨rfl, rfl, rfl, fun _ _ => rfl⟩

theorem kept?_of_get {s : State σ} {cache cache' : Cache} {key : Key} {text : String}
    (hcache : s.cache = some cache) (hget : cache.get key = (some text, cache')) :
    s.kept? key = some text ∧ cache' = cache := by
  obtain ⟨entry, hfind, hfresh, rfl⟩ := Cache.get_fst_eq_some_iff.mp (congrArg Prod.fst hget)
  have hnow : s.now = cache.clock.now := by simp [now, hcache]
  refine ⟨?_, Cache.get_hit hget⟩
  simp [kept?, slot?, hcache, hfind, hnow, hfresh]

theorem kept?_of_missed {key : Key} {s u : State σ} {events : List Event}
    (h : Missed key s events u) :
    s.kept? key = none ∧ u.slot? key = none ∧ Touches key s u := by
  cases h with
  | uncached hnone =>
      have hempty : s.slot? key = none := by simp [slot?, hnone]
      exact ⟨by simp [kept?, hempty], hempty, .refl _ s⟩
  | @missed cache cache' hcache hget =>
      obtain ⟨hclock, hcapacity, hstale, hfind⟩ := Cache.get_none hget
      have hnow : s.now = cache.clock.now := by simp [now, hcache]
      refine ⟨?_, by simp [slot?, hfind], rfl, ?_, ?_, ?_⟩
      · simp only [kept?, slot?, hcache, Option.bind_some, Option.bind_eq_none_iff, hnow]
        intro entry hentry
        simp [hstale entry hentry]
      · simp [hcache, hclock]
      · simp [places, hcache, hcapacity]
      · intro k hk
        simp [slot?, hcache, hfind, hk]

theorem touches_keep (s : State σ) (key : Key) (value : String) (ttl : Ttl) :
    Touches key s (s.keep key value ttl) := by
  cases h : s.cache with
  | none => refine ⟨rfl, ?_, ?_, fun k _ => ?_⟩ <;> simp [places, slot?, keep, h]
  | some cache =>
      refine ⟨rfl, ?_, ?_, fun k hk => ?_⟩
      · simp [keep, h]
      · simp [places, keep, h]
      · simpa [slot?, keep, h] using Cache.find?_put_of_ne hk

theorem admits_iff {s : State σ} {cache : Cache} (hcache : s.cache = some cache) {key : Key}
    (hnone : s.slot? key = none) (hroom : s.HasRoom key) :
    cache.admits key = true ↔ s.places ≠ 0 := by
  have hfind : cache.entries.find? key = none := by simpa [slot?, hcache] using hnone
  have hcard : (s.keys.erase key).card = cache.entries.size := by
    rw [Finset.erase_eq_of_notMem (by simp [mem_keys_iff, hnone])]
    simp only [keys, hcache, Option.map_some, Option.getD_some]
    exact (List.toFinset_card_of_nodup cache.entries.nodup_keys).trans (List.length_map _)
  have hplaces : s.places = cache.capacity.toNat := by simp [places, hcache]
  simp only [Cache.admits, Table.contains, hfind, Option.isSome_none, Bool.false_or,
    decide_eq_true_eq, ← hcard, ← hplaces]
  unfold HasRoom at hroom
  omega

theorem slot?_keep {s : State σ} {key : Key} {ttl : Ttl} (hnone : s.slot? key = none)
    (hroom : ttl.isNone = false → s.HasRoom key) (value : String) :
    (s.keep key value ttl).slot? key =
      if ttl.isNone = true ∨ s.places = 0 then none else some ⟨value, s.now, ttl⟩ := by
  cases h : s.cache with
  | none => simp [slot?, keep, places, h]
  | some cache =>
      have hfind : cache.entries.find? key = none := by simpa [slot?, h] using hnone
      simp only [slot?, keep, h, Option.map_some, Option.bind_some, now, Option.getD_some]
      cases httl : ttl.isNone with
      | true => simp [Cache.put, httl, Cache.find?_invalidate]
      | false =>
          have hadmits := admits_iff h hnone (hroom httl)
          cases hadmitted : cache.admits key with
          | true =>
              have hplaces : s.places ≠ 0 := hadmits.mp hadmitted
              rw [Cache.find?_put (fun _ => hadmitted)]
              simp [httl, hplaces]
          | false =>
              have hplaces : s.places = 0 := by simpa [hadmitted] using hadmits
              simp [Cache.put, httl, hadmitted, hplaces, hfind]

end State

/-! ## Verdicts -/

/-- The ways in which a resolution can end, and what it then comes to. -/
inductive Verdict where
  | gate
  | custom (text : String)
  | refusal
  /-- The cache had the text. -/
  | kept (text : String)
  /-- The source made the text. -/
  | made (text : String)
  | nothing
  deriving DecidableEq, Repr

namespace Verdict

def origin : Verdict → Origin
  | gate => .gate
  | custom _ => .custom
  | refusal => .refusal
  | kept _ => .cache
  | made _ => .registry
  | nothing => .nothing

def answer : Verdict → Answer
  | custom text | made text => .value text
  | kept text => .cached text
  | gate | refusal | nothing => .empty

end Verdict

namespace Resolver

def ttl (r : Resolver σ) (token : Token) : Ttl :=
  (r.source.map fun source => source.ttl token.expansion token.identifier).getD .never

/-- How a resolution ends that finds a state. -/
def verdict (r : Resolver σ) (s : State σ) (token : Token) (context : Context) : Verdict :=
  if Passes token context then
    match (s.consult token context).value? with
    | some text => .custom text
    | none =>
      if r.refuses token then .refusal
      else
        match s.kept? (Key.ofToken token context) with
        | some text => .kept text
        | none =>
          match r.sourced token context s.host with
          | some text => .made text
          | none => .nothing
  else .gate

/-- What such a resolution leaves under its key, if there is room for what it makes. -/
def leaves (r : Resolver σ) (s : State σ) (token : Token) (context : Context) : Option Entry :=
  match r.verdict s token context with
  | .gate | .custom _ | .refusal | .kept _ => s.slot? (Key.ofToken token context)
  | .made text =>
    if (r.ttl token).isNone = true ∨ s.places = 0 then none else some ⟨text, s.now, r.ttl token⟩
  | .nothing => none

variable {r : Resolver σ} {token : Token} {context : Context} {s s' : State σ}
  {events : List Event} {origin : Origin} {answer : Answer}

theorem leaves_eq_slot? {v : Verdict} (hverdict : r.verdict s token context = v)
    (hearly : v.origin ∉ [Origin.registry, .nothing]) :
    r.leaves s token context = s.slot? (Key.ofToken token context) := by
  unfold leaves
  rw [hverdict]
  cases v with
  | gate | custom | refusal | kept => rfl
  | made | nothing => simp [Verdict.origin] at hearly

theorem Reaches.verdict_eq (h : r.Reaches token context s) :
    r.verdict s token context =
      match s.kept? (Key.ofToken token context) with
      | some text => .kept text
      | none =>
        match r.sourced token context s.host with
        | some text => .made text
        | none => .nothing := by
  simp [verdict, h.passes, h.declined, h.allowed]

theorem sourced_of_verdict {text : String} (h : r.verdict s token context = .made text) :
    r.Reaches token context s ∧ r.sourced token context s.host = some text := by
  unfold verdict at h
  split_ifs at h with hpasses hrefuses
  · split at h <;> cases h
  · split at h
    · cases h
    · next hdeclined =>
        refine ⟨⟨hpasses, hdeclined, by simpa using hrefuses⟩, ?_⟩
        split at h
        · cases h
        · split at h
          · next hsourced =>
              cases h
              exact hsourced
          · cases h

/-- A resolution ends as the state says that it finds. -/
theorem Settles.verdict_eq (h : r.Settles token context s events origin answer s')
    (hr : r.Steady) :
    origin = (r.verdict s token context).origin ∧ answer = (r.verdict s token context).answer := by
  cases h with
  | gate hc => simp [verdict, hc, Verdict.origin, Verdict.answer]
  | custom hc hvalue => simp [verdict, hc, hvalue, Verdict.origin, Verdict.answer]
  | refusal hc hvalue hrefuses =>
      simp [verdict, hc, hvalue, hrefuses, Verdict.origin, Verdict.answer]
  | hit hreach hcache hget =>
      rw [hreach.verdict_eq, (State.kept?_of_get hcache hget).1]
      exact ⟨rfl, rfl⟩
  | produced hreach hmissed hproduces =>
      have hkept : s.kept? (Key.ofToken token context) = none := (State.kept?_of_missed hmissed).1
      have htext := hproduces.text_eq hr s.host
      rw [hreach.verdict_eq, hkept, htext]
      cases hproduces <;> exact ⟨rfl, rfl⟩

/-- A resolution concerns its own key alone. -/
theorem Settles.touches (h : r.Settles token context s events origin answer s') :
    State.Touches (Key.ofToken token context) s s' := by
  cases h with
  | gate => exact .refl _ s
  | custom | refusal => exact State.touches_host _ s _
  | hit _ hcache hget =>
      obtain rfl := Cache.get_hit hget
      rw [← hcache]
      exact State.touches_host _ s _
  | @produced u _ _ _ _ _ _ hmissed hproduces =>
      have hasked := (State.touches_host _ s _).trans (State.kept?_of_missed hmissed).2.2
      cases hproduces with
      | sourceless => exact hasked
      | @nothing _ host => exact hasked.trans (State.touches_host _ u host)
      | @fresh source text host =>
          exact (hasked.trans (State.touches_host _ u host)).trans (State.touches_keep _ _ text _)

/-- A resolution leaves what the state says that it finds. -/
theorem Settles.slot?_eq (h : r.Settles token context s events origin answer s')
    (hr : r.Steady) (hroom : origin = .registry → (r.ttl token).isNone = false →
      s.HasRoom (Key.ofToken token context)) :
    s'.slot? (Key.ofToken token context) = r.leaves s token context := by
  unfold leaves
  cases h with
  | gate hc => simp [verdict, hc]
  | custom hc hvalue =>
      simp only [verdict, hc, hvalue, if_true]
      rfl
  | refusal hc hvalue hrefuses =>
      simp only [verdict, hc, hvalue, hrefuses, if_true]
      rfl
  | hit hreach hcache hget =>
      obtain ⟨hkept, rfl⟩ := State.kept?_of_get hcache hget
      rw [hreach.verdict_eq, hkept, ← hcache]
      rfl
  | @produced u _ _ _ _ _ hreach hmissed hproduces =>
      obtain ⟨hkept, hnone, htouches⟩ := State.kept?_of_missed hmissed
      have hkept' : s.kept? (Key.ofToken token context) = none := hkept
      rw [hreach.verdict_eq, hkept', hproduces.text_eq hr s.host]
      cases hproduces with
      | sourceless => exact hnone
      | nothing => exact hnone
      | @fresh source text host _ hsource =>
          have hall := ((State.touches_host _ s _).trans htouches).trans
            (State.touches_host _ u host)
          have hnone' : State.slot? { u with host } (Key.ofToken token context) = none := hnone
          have httl : source.ttl token.expansion token.identifier = r.ttl token := by
            simp [ttl, hsource]
          rw [httl, State.slot?_keep hnone' (fun hn => hall.hasRoom (hroom rfl hn)), hall.now,
            hall.places]
          simp [Answer.text?]

/-- What a resolution comes to and leaves is the same in states that agree on its key. -/
theorem verdict_congr {p : Key → Prop} {u : State σ} (h : State.Agree p s u) (hr : r.Steady)
    (hs : Customs.Steady s.customs) (hkey : p (Key.ofToken token context)) :
    r.verdict u token context = r.verdict s token context := by
  unfold verdict
  rw [State.consult_value_congr h.customs (h.customs ▸ hs), h.kept?_eq hkey,
    sourced_host hr token context u.host s.host]

theorem leaves_congr {p : Key → Prop} {u : State σ} (h : State.Agree p s u) (hr : r.Steady)
    (hs : Customs.Steady s.customs) (hkey : p (Key.ofToken token context)) :
    r.leaves u token context = r.leaves s token context := by
  unfold leaves
  rw [verdict_congr h hr hs hkey, h.entry _ hkey, h.now, h.places]

theorem leaves_isSome (horigin : (r.verdict s token context).origin = .registry)
    (httl : (r.ttl token).isNone = false) (hplaces : s.places ≠ 0) :
    (r.leaves s token context).isSome = true := by
  unfold leaves
  cases hv : r.verdict s token context with
  | made text => simp [httl, hplaces]
  | _ => simp [hv, Verdict.origin] at horigin

/-- States that agree on the key of a token still agree after it was settled in each of them. -/
theorem Settles.agree {p : Key → Prop} {u u' : State σ} {events' : List Event} {origin' : Origin}
    {answer' : Answer} (h : r.Settles token context s events origin answer s')
    (h' : r.Settles token context u events' origin' answer' u') (hagree : State.Agree p s u)
    (hr : r.Steady) (hs : Customs.Steady s.customs) (hkey : p (Key.ofToken token context))
    (hroom : origin = .registry → (r.ttl token).isNone = false →
      s.HasRoom (Key.ofToken token context) ∧ u.HasRoom (Key.ofToken token context)) :
    origin' = origin ∧ answer' = answer ∧ State.Agree p s' u' := by
  obtain ⟨rfl, rfl⟩ := h.verdict_eq hr
  obtain ⟨rfl, rfl⟩ := h'.verdict_eq hr
  have hverdict := verdict_congr hagree hr hs hkey
  have htouches := h.touches
  have htouches' := h'.touches
  refine ⟨by rw [hverdict], by rw [hverdict], ?_, ?_, ?_, ?_⟩
  · rw [htouches.customs, htouches'.customs, hagree.customs]
  · rw [htouches.clock, htouches'.clock, hagree.clock]
  · rw [htouches.places, htouches'.places, hagree.places]
  · intro k hk
    by_cases hown : k = Key.ofToken token context
    · rw [hown, h.slot?_eq hr fun ho ht => (hroom ho ht).1,
        h'.slot?_eq hr fun ho ht => (hroom (hverdict ▸ ho) ht).2, leaves_congr hagree hr hs hkey]
    · rw [htouches.entry k hown, htouches'.entry k hown, hagree.entry k hk]

end Resolver
end Placeholder
