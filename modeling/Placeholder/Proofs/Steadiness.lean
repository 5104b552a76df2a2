import Placeholder.Proofs.Caching
import Placeholder.Proofs.Passes

/-!
# Foreign code without memory

Foreign code is steady if what it comes back with is settled by what it is asked, whatever state it
has. Then every token has a meaning in a context: the text of its answer, however it comes about. A
cache is sound if each entry is what the source would answer, whoever may ask for the key. Single
resolutions keep a cache sound and give tokens their meaning.
-/
namespace Placeholder

variable {σ : Type}

def Custom.Steady (custom : Custom σ) : Prop :=
  ∃ outcome : Context → String → Outcome, ∀ context identifier host, ∃ host',
    custom context identifier host = .finish (outcome context identifier) host'

def Customs.Steady (customs : Customs σ) : Prop :=
  ∀ name custom, customs.find? name = some custom → Custom.Steady custom

def Handler.Steady (h : Handler σ) : Prop :=
  ∃ outcome : Request → Outcome, ∀ request host, (h.run request host).1 = outcome request

def Locator.Steady (locator : Locator σ) : Prop :=
  ∃ sight : Subject → Sighting, ∀ whom host, (locator whom host).1 = sight whom

/-- The handlers that can be chosen are steady, and so is the locator. -/
structure Registry.Steady (g : Registry σ) : Prop where
  handler : ∀ expansion identifier h argument,
    g.choose expansion identifier = some (h, argument) → h.Steady
  locator : ∀ locator, g.locator = some locator → Locator.Steady locator

/-- What the source answers does not depend on the state of foreign code. -/
def Source.Steady (source : Source σ) : Prop :=
  ∀ expansion identifier context host host',
    (source.answer expansion identifier context host).result =
      (source.answer expansion identifier context host').result

/-- What the source answers to a token depends on the context only through the key. -/
def Source.KeyDetermined (source : Source σ) : Prop :=
  ∀ (token : Token) (c d : Context), token.Parsed →
    (token.relational = true ∨ source.isRelational token.expansion token.identifier = false) →
    Passes token c → Passes token d → Key.ofToken token c = Key.ofToken token d →
    ∀ host, (source.answer token.expansion token.identifier c host).result =
      (source.answer token.expansion token.identifier d host).result

theorem Custom.Steady.direct {custom : Custom σ} (h : custom.Steady) : custom.Direct := by
  intro context identifier host
  obtain ⟨outcome, hrun⟩ := h
  obtain ⟨host', hrun⟩ := hrun context identifier host
  exact ⟨_, host', hrun⟩

theorem Customs.Steady.direct {customs : Customs σ} (h : Customs.Steady customs) :
    Customs.Direct customs :=
  fun name custom hfind => (h name custom hfind).direct

theorem State.consult_value_congr {s u : State σ} (hsame : s.customs = u.customs)
    (hs : Customs.Steady s.customs) (token : Token) (context : Context) :
    (s.consult token context).value? = (u.consult token context).value? := by
  unfold consult
  rw [← hsame]
  cases hc : s.customs.ofExpansion? token.expansion with
  | none => rfl
  | some custom =>
      obtain ⟨outcome, hrun⟩ := hs _ custom hc
      obtain ⟨first, hfirst⟩ := hrun context token.identifier s.host
      obtain ⟨second, hsecond⟩ := hrun context token.identifier u.host
      simp only [hfirst, hsecond]

namespace Registry

variable {g : Registry σ}

theorem Steady.admits (hs : g.Steady) (hg : g.Calm) (h : Handler σ) (context : Context)
    (host host' : σ) : (g.admits h context host).result = (g.admits h context host').result := by
  unfold Registry.admits
  rcases context.relation with _ | ⟨viewer, target⟩
  · split_ifs <;> rfl
  · rcases hl : g.locator with _ | locator
    · split_ifs <;> rfl
    · obtain ⟨sight, hsight⟩ := hs.locator locator hl
      split_ifs
      · rfl
      · rfl
      · rfl
      · simp only [Exec.bind_apply, Locator.ask_apply locator _ _ (hg locator hl _ _),
          Report.after_nil, hsight]
        cases (sight viewer).place? <;> cases (sight target).place? <;> rfl

theorem Steady.source (hs : g.Steady) (hg : g.Calm) : g.toSource.Steady := by
  intro expansion identifier context host host'
  simp only [toSource, answer]
  cases hchoose : g.choose expansion identifier with
  | none => rfl
  | some chosen =>
      obtain ⟨h, argument⟩ := chosen
      obtain ⟨outcome, houtcome⟩ := hs.handler _ _ h argument hchoose
      obtain ⟨first, u, hfirst⟩ := admits_apply hg h context host
      obtain ⟨second, u', hsecond⟩ := admits_apply hg h context host'
      have hsame := hs.admits hg h context host host'
      rw [hfirst, hsecond] at hsame
      cases hsame
      simp only [Exec.bind_apply, hfirst, hsecond, Report.after_nil]
      cases first with
      | false => rfl
      | true => simp only [if_true, Handler.call_apply, houtcome]

theorem choose_single {h chosen : Handler σ} {expansion identifier : String}
    {argument : Option String}
    (hchoose : (single h).choose expansion identifier = some (chosen, argument)) : chosen = h := by
  simp only [choose, single, Table.find?_insert] at hchoose
  split_ifs at hchoose
  · simp only [Family.choose, Family.empty, Table.find?_empty, Family.chooseLeading,
      Option.map_some, Option.some.injEq, Prod.mk.injEq] at hchoose
    exact hchoose.1.symm
  · cases hchoose

theorem single_steady {h : Handler σ} (hh : h.Steady) : (single h).Steady where
  handler _ _ _ _ hchoose := choose_single hchoose ▸ hh
  locator locator hl := by cases hl

theorem single_constant_keyDetermined (expansion : String) (ttl : Ttl) (text : String) :
    (single (.constant expansion ttl text)).toSource.KeyDetermined := by
  intro token c d _ _ _ _ _ host
  simp only [toSource, answer]
  cases hchoose : choose _ token.expansion token.identifier with
  | none => rfl
  | some chosen =>
      obtain ⟨h, argument⟩ := chosen
      obtain rfl := choose_single hchoose
      rfl

end Registry

theorem Handler.constant_steady (expansion : String) (ttl : Ttl) (text : String) :
    (constant expansion ttl text).Steady :=
  ⟨fun _ => .value text, fun _ _ => rfl⟩

/-! ## The meaning of a token -/

instance (token : Token) (context : Context) : Decidable (Passes token context) :=
  inferInstanceAs (Decidable (_ → _))

def Source.text? (source : Source σ) (expansion identifier : String) (context : Context)
    (host : σ) : Option String :=
  match (source.answer expansion identifier context host).result with
  | .ok answer => answer.text?
  | .error _ => none

namespace Resolver

/-- The text that the source has for a token, if there is a source. -/
def sourced (r : Resolver σ) (token : Token) (context : Context) (host : σ) : Option String :=
  r.source.bind fun source => source.text? token.expansion token.identifier context host

/-- The text that a token has in a context, if it has one. -/
def meaning (r : Resolver σ) (s : State σ) (token : Token) (context : Context) : Option String :=
  if Passes token context then
    match (s.consult token context).value? with
    | some text => some text
    | none => if r.refuses token then none else r.sourced token context s.host
  else none

/-- Each entry is what the source would answer to whoever may ask for its key. -/
def Sound (r : Resolver σ) (cache : Cache) : Prop :=
  ∀ (token : Token) (context : Context) (host : σ) (entry : Entry), token.Parsed →
    Passes token context → r.refuses token = false →
    cache.entries.find? (Key.ofToken token context) = some entry →
    r.sourced token context host = some entry.value

def Warm (r : Resolver σ) (s : State σ) : Prop := ∀ cache, s.cache = some cache → r.Sound cache

def Steady (r : Resolver σ) : Prop := ∀ source, r.source = some source → source.Steady

def KeyDetermined (r : Resolver σ) : Prop :=
  ∀ source, r.source = some source → source.KeyDetermined

variable {r : Resolver σ}

theorem steady_of_registry (h : ∀ source, r.source = some source →
    ∃ g : Registry σ, source = g.toSource ∧ g.Calm ∧ g.Steady) : r.Returns ∧ r.Steady := by
  constructor
  · intro source hsource
    obtain ⟨g, rfl, hg, -⟩ := h source hsource
    exact hg.returns
  · intro source hsource
    obtain ⟨g, rfl, hg, hsteady⟩ := h source hsource
    exact hsteady.source hg

theorem sourced_eq (hr : r.Steady) {source : Source σ} (hsource : r.source = some source)
    {token : Token} {context : Context} {host host' : σ} {answer : Answer} {events : List Event}
    (ha : source.answer token.expansion token.identifier context host = ⟨.ok answer, host', events⟩)
    (other : σ) : r.sourced token context other = answer.text? := by
  have hsame := hr source hsource token.expansion token.identifier context other host
  rw [ha] at hsame
  simp only [sourced, hsource, Option.bind_some, Source.text?, hsame]

theorem sourced_host (hr : r.Steady) (token : Token) (context : Context) (host host' : σ) :
    r.sourced token context host = r.sourced token context host' := by
  unfold sourced
  cases hsource : r.source with
  | none => rfl
  | some source =>
      have := hr source hsource token.expansion token.identifier context host host'
      simp only [Option.bind_some, Source.text?, this]

/-- Whoever asks for one key is answered the same. -/
theorem sourced_congr (hkeys : r.KeyDetermined) {t u : Token} {c d : Context} (ht : t.Parsed)
    (hu : u.Parsed) (hc : Passes t c) (hd : Passes u d) (hallowed : r.refuses t = false)
    (h : Key.ofToken u d = Key.ofToken t c) (host : σ) :
    r.sourced u d host = r.sourced t c host := by
  obtain ⟨he, hi, hrel, hprimary, htarget⟩ := Ask.mk.inj ((Key.ofToken_eq_iff hu ht hd hc).mp h)
  have hd' : Passes t d := by
    intro hrelational
    exact hd (hrel.trans hrelational)
  unfold sourced
  cases hsource : r.source with
  | none => rfl
  | some source =>
      have hkind : t.relational = true ∨ source.isRelational t.expansion t.identifier = false := by
        simpa [refuses, hsource, or_iff_not_imp_left] using hallowed
      have hkey : Key.ofToken t c = Key.ofToken t d := by
        apply (Key.ofToken_eq_iff ht ht hc hd').mpr
        simp only [Ask.of, ← hprimary, ← htarget, hrel]
      have hsame := hkeys source hsource t c d ht hkind hc hd' hkey host
      simp only [Option.bind_some, Source.text?, he, hi, hsame]

namespace Sound

variable {cache cache' : Cache}

theorem mono (h : r.Sound cache)
    (hsub : ∀ key entry, cache'.entries.find? key = some entry →
      cache.entries.find? key = some entry) : r.Sound cache' :=
  fun token context host entry ht hc hallowed hfind =>
    h token context host entry ht hc hallowed (hsub _ _ hfind)

theorem empty (r : Resolver σ) (capacity : UInt64) (clock : Clock) :
    r.Sound (.empty capacity clock) := by
  intro token context host entry _ _ _ hfind
  cases hfind

theorem put (h : r.Sound cache) (hkeys : r.KeyDetermined) {token : Token} {context : Context}
    (ht : token.Parsed) (hc : Passes token context) (hallowed : r.refuses token = false)
    {text : String} (htext : ∀ host, r.sourced token context host = some text) (ttl : Ttl) :
    r.Sound (cache.put (Key.ofToken token context) text ttl) := by
  intro u d host entry hu hd hu' hfind
  rcases Cache.find?_of_find?_put hfind with ⟨hkey, hvalue⟩ | hold
  · rw [sourced_congr hkeys ht hu hc hd hallowed hkey host, htext host, hvalue]
  · exact h u d host entry hu hd hu' hold

end Sound

variable {token : Token} {context : Context} {s u s' : State σ} {events : List Event}
  {origin : Origin} {answer : Answer}

/-- The meaning of tokens lies in the custom resolvers that are in use, and in nothing else of the
state. -/
theorem meaning_congr (hr : r.Steady) (hsame : s.customs = u.customs)
    (hs : Customs.Steady s.customs) (token : Token) (context : Context) :
    r.meaning s token context = r.meaning u token context := by
  unfold meaning
  rw [State.consult_value_congr hsame hs, sourced_host hr token context s.host u.host]

theorem Produces.text_eq (h : r.Produces token context s events origin answer s') (hr : r.Steady)
    (host : σ) : r.sourced token context host = answer.text? := by
  cases h with
  | sourceless hnone => simp [sourced, hnone, Answer.text?]
  | nothing hsource ha => exact sourced_eq hr hsource ha host
  | fresh hsource ha => exact sourced_eq hr hsource ha host

/-- Whatever way a resolution takes, it comes to the meaning of its token. -/
theorem Settles.text_eq (h : r.Settles token context s events origin answer s') (hr : r.Steady)
    (ht : token.Parsed) (hwarm : r.Warm s) : answer.text? = r.meaning s token context := by
  have hreaches : r.Reaches token context s →
      r.meaning s token context = r.sourced token context s.host := by
    intro hreach
    simp only [meaning, hreach.passes, hreach.declined, hreach.allowed, if_true,
      Bool.false_eq_true, if_false]
  cases h with
  | gate hc => rw [meaning, if_neg hc, Answer.text?]
  | custom hc hvalue => simp only [meaning, hc, hvalue, if_true, Answer.text?]
  | refusal hc hvalue hrefuses => simp only [meaning, hc, hvalue, hrefuses, if_true, Answer.text?]
  | hit hreach hcache hget =>
      obtain ⟨entry, hfind, -, hvalue⟩ := Cache.get_fst_eq_some_iff.mp (congrArg Prod.fst hget)
      have hsound := hwarm _ hcache token context s.host entry ht hreach.passes hreach.allowed hfind
      rw [hreaches hreach, hsound, hvalue, Answer.text?]
  | produced hreach _ hproduces => rw [hreaches hreach, hproduces.text_eq hr]

theorem Warm.missed {key : Key} (h : r.Warm s) (hmissed : Missed key s events u) : r.Warm u := by
  cases hmissed with
  | uncached => exact h
  | missed hcache hget =>
      intro cache hc
      obtain rfl := Option.some.inj hc
      apply (h _ hcache).mono
      intro k entry hfind
      rw [(Cache.get_none hget).2.2.2] at hfind
      split_ifs at hfind
      exact hfind

theorem Warm.keep (h : r.Warm s) (hkeys : r.KeyDetermined) (ht : token.Parsed)
    (hc : Passes token context) (hallowed : r.refuses token = false) {text : String}
    (htext : ∀ host, r.sourced token context host = some text) (ttl : Ttl) :
    r.Warm (s.keep (Key.ofToken token context) text ttl) := by
  intro cache hcache
  obtain ⟨old, hold, rfl⟩ := Option.map_eq_some_iff.mp hcache
  exact (h old hold).put hkeys ht hc hallowed htext ttl

/-- A resolution keeps the cache sound. -/
theorem Settles.warm (h : r.Settles token context s events origin answer s') (hr : r.Steady)
    (hkeys : r.KeyDetermined) (ht : token.Parsed) (hwarm : r.Warm s) : r.Warm s' := by
  cases h with
  | gate | custom | refusal => exact hwarm
  | hit hreach hcache hget =>
      intro cache hc
      obtain rfl := Option.some.inj hc
      rw [Cache.get_hit hget]
      exact hwarm _ hcache
  | @produced u _ _ _ _ _ hreach hmissed hproduces =>
      have hconsulted : r.Warm (s.consulted token context) := hwarm
      have hu : r.Warm u := hconsulted.missed hmissed
      have htext := fun host => hproduces.text_eq hr host
      cases hproduces with
      | sourceless | nothing => exact hu
      | @fresh _ _ host =>
          have hmade : r.Warm { u with host } := hu
          exact hmade.keep hkeys ht hreach.passes hreach.allowed htext _

theorem Settles.uncached (h : r.Settles token context s events origin answer s')
    (hnone : s.cache = none) :
    s'.cache = none ∧ answer = Answer.ofOption answer.text? := by
  cases h with
  | gate | custom | refusal => exact ⟨hnone, rfl⟩
  | hit _ hcache => simp [hnone] at hcache
  | produced _ hmissed hproduces =>
      cases hmissed with
      | missed hcache =>
          have : s.cache = some _ := hcache
          simp [hnone] at this
      | uncached =>
          cases hproduces with
          | sourceless | nothing => exact ⟨hnone, rfl⟩
          | fresh => exact ⟨by simp [State.keep, State.consulted, hnone], rfl⟩

/-- The resolutions of a trace come to the meanings of their tokens and keep the cache sound. -/
theorem Trace.warm {trace : List Settled} (h : r.Trace context s trace s') (hr : r.Steady)
    (hkeys : r.KeyDetermined) (hcustoms : Customs.Steady s.customs)
    (hparsed : ∀ x ∈ trace, x.token.Parsed) (hwarm : r.Warm s) :
    r.Warm s' ∧ ∀ x ∈ trace, x.answer.text? = r.meaning s x.token context := by
  induction h with
  | nil s => exact ⟨hwarm, by simp⟩
  | @cons s u s' token events origin answer trace hsettles _ ih =>
      have ht : token.Parsed := hparsed _ List.mem_cons_self
      have hsame := hsettles.customs_eq
      obtain ⟨hs', htexts⟩ := ih (hsame ▸ hcustoms)
        (fun x hx => hparsed x (List.mem_cons_of_mem _ hx)) (hsettles.warm hr hkeys ht hwarm)
      refine ⟨hs', List.forall_mem_cons.mpr ⟨hsettles.text_eq hr ht hwarm, ?_⟩⟩
      intro x hx
      rw [htexts x hx, meaning_congr hr hsame (hsame ▸ hcustoms)]

theorem Trace.uncached {trace : List Settled} (h : r.Trace context s trace s')
    (hnone : s.cache = none) :
    s'.cache = none ∧ ∀ x ∈ trace, x.answer = Answer.ofOption x.answer.text? := by
  induction h with
  | nil s => exact ⟨hnone, by simp⟩
  | cons hsettles _ ih =>
      obtain ⟨hu, hanswer⟩ := hsettles.uncached hnone
      obtain ⟨hs', hanswers⟩ := ih hu
      exact ⟨hs', List.forall_mem_cons.mpr ⟨hanswer, hanswers⟩⟩

end Resolver
end Placeholder
