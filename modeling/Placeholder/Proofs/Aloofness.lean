import Placeholder.Proofs.Lockstep

/-!
# Foreign code that keeps to itself

All foreign code shares one state. Often a part of it is all that handlers and locators look at, and
custom resolvers leave that part alone. A resolver then does the same in two states that differ
elsewhere: it reports the same, keeps the same and comes to the same, and the part is the same in
the end. Nothing but the question to a custom resolver depends on which custom resolvers there are.
-/
namespace Placeholder

variable {σ τ S α β : Type}

/-! ## Work in related states -/

/-- The same result and the same events, in states that are related. -/
structure Report.Same (R : S → S → Prop) (x y : Report S α) : Prop where
  result : y.result = x.result
  events : y.events = x.events
  state : R x.state y.state

/-- Work that comes to the same in related states. -/
def Exec.Same (R : S → S → Prop) (x y : Exec S α) : Prop := ∀ s u, R s u → (x s).Same R (y u)

namespace Exec.Same

variable {R : S → S → Prop}

theorem pure (a : α) : Same R (Pure.pure a) (Pure.pure a) := fun _ _ h => ⟨rfl, rfl, h⟩

theorem panic (p : Panic) : Same R (Exec.panic p : Exec S α) (Exec.panic p) :=
  fun _ _ h => ⟨rfl, rfl, h⟩

theorem report (event : Event) : Same R (Exec.report event) (Exec.report event) :=
  fun _ _ h => ⟨rfl, rfl, h⟩

theorem change {f : S → S} (hf : ∀ s u, R s u → R (f s) (f u)) :
    Same R (Exec.change f) (Exec.change f) :=
  fun s u h => ⟨rfl, rfl, hf s u h⟩

theorem update {f : S → α × S} (hf : ∀ s u, R s u → (f u).1 = (f s).1 ∧ R (f s).2 (f u).2) :
    Same R (Exec.update f) (Exec.update f) :=
  fun s u h => ⟨congrArg Except.ok (hf s u h).1, rfl, (hf s u h).2⟩

theorem bind {x y : Exec S α} {f g : α → Exec S β} (hx : Same R x y)
    (hf : ∀ a, Same R (f a) (g a)) : Same R (x >>= f) (y >>= g) := by
  intro s u h
  obtain ⟨hresult, hevents, hstate⟩ := hx s u h
  rw [bind_apply, bind_apply]
  rcases hrun : x s with ⟨result, s', events⟩
  rcases hrun' : y u with ⟨result', u', events'⟩
  simp only [hrun, hrun'] at hresult hevents hstate
  subst hresult hevents
  cases result' with
  | error p => exact ⟨rfl, rfl, hstate⟩
  | ok a =>
      obtain ⟨hresult, hevents, hlast⟩ := hf a s' u' hstate
      exact ⟨hresult, congrArg (events' ++ ·) hevents, hlast⟩

theorem read {f g : S → Exec S β} (h : ∀ s u, R s u → (f s s).Same R (g u u)) :
    Same R (Exec.state >>= f) (Exec.state >>= g) :=
  fun s u hsu => h s u hsu

theorem attempt {x y : Exec S α} (hx : Same R x y) : Same R (Exec.attempt x) (Exec.attempt y) := by
  intro s u h
  obtain ⟨hresult, hevents, hstate⟩ := hx s u h
  unfold Exec.attempt
  rcases hrun : x s with ⟨result, s', events⟩
  rcases hrun' : y u with ⟨result', u', events'⟩
  simp only [hrun, hrun'] at hresult hevents hstate
  subst hresult hevents
  cases result' <;> exact ⟨rfl, rfl, hstate⟩

theorem settled {R : State σ → State σ → Prop} (token : Token) (context : Context)
    (origin : Origin) (answer : Answer) :
    Same R (Placeholder.settled token context origin answer)
      (Placeholder.settled token context origin answer) :=
  (report _).bind fun _ => .pure answer

end Exec.Same

/-! ## A part of the foreign state -/

/-- Work of foreign code that goes by a part of its state alone, also in what it leaves there. -/
def Exec.LooksAt (own : σ → τ) (x : Exec σ α) : Prop :=
  Exec.Same (fun host host' => own host' = own host) x x

def Source.LooksAt (own : σ → τ) (source : Source σ) : Prop :=
  ∀ expansion identifier context, (source.answer expansion identifier context).LooksAt own

def Resolver.LooksAt (own : σ → τ) (r : Resolver σ) : Prop :=
  ∀ source, r.source = some source → source.LooksAt own

/-- What the custom resolver comes to is settled by what it is asked. It comes back at once and
leaves a part of the state of foreign code alone. -/
def Custom.Aloof (own : σ → τ) (custom : Custom σ) : Prop :=
  ∃ outcome : Context → String → Outcome, ∀ context identifier host, ∃ host',
    custom context identifier host = .finish (outcome context identifier) host' ∧
      own host' = own host

def Customs.Aloof (own : σ → τ) (customs : Customs σ) : Prop :=
  ∀ name custom, customs.find? name = some custom → Custom.Aloof own custom

theorem Resolver.looksAt_id (r : Resolver σ) : r.LooksAt id := by
  intro source _ expansion identifier context host host' h
  obtain rfl : host' = host := h
  exact ⟨rfl, rfl, rfl⟩

theorem Custom.Aloof.direct {own : σ → τ} {custom : Custom σ} (h : custom.Aloof own) :
    custom.Direct := by
  intro context identifier host
  obtain ⟨outcome, hrun⟩ := h
  obtain ⟨host', hrun, -⟩ := hrun context identifier host
  exact ⟨_, host', hrun⟩

theorem Customs.Aloof.direct {own : σ → τ} {customs : Customs σ}
    (h : Customs.Aloof own customs) : Customs.Direct customs :=
  fun name custom hfind => (h name custom hfind).direct

/-! ### Registries -/

/-- The handlers that can be chosen look at a part of the state of foreign code, and so does the
locator. -/
structure Registry.LooksAt (own : σ → τ) (g : Registry σ) : Prop where
  handler : ∀ expansion identifier h argument,
    g.choose expansion identifier = some (h, argument) →
      ∀ request, (Exec.update (h.run request)).LooksAt own
  locator : ∀ locator, g.locator = some locator → ∀ whom, (Exec.update (locator whom)).LooksAt own

namespace Registry

variable {own : σ → τ} {g : Registry σ}

theorem admits_looksAt (hlocator : ∀ locator, g.locator = some locator →
      ∀ whom, (Exec.update (locator whom)).LooksAt own)
    (h : Handler σ) (context : Context) : (g.admits h context).LooksAt own := by
  have hask : ∀ locator, g.locator = some locator → ∀ whom, (locator.ask whom).LooksAt own := by
    intro locator hl whom
    refine Exec.Same.bind (hlocator locator hl whom) fun sighting => ?_
    cases sighting with
    | found place => exact .pure _
    | unknown => exact .pure _
    | panic message => exact .panic _
  unfold Registry.admits
  rcases context.relation with _ | ⟨viewer, target⟩
  · split_ifs
    · exact .pure false
    · exact .pure true
    · exact .pure false
    · exact .pure false
  · split_ifs
    · exact .pure false
    · exact .pure true
    · exact .pure true
    · cases hl : g.locator with
      | none => exact .pure false
      | some locator =>
          refine Exec.Same.bind (hask locator hl viewer) fun a =>
            Exec.Same.bind (hask locator hl target) fun b => ?_
          cases a <;> cases b <;> exact .pure _

theorem LooksAt.source (hg : g.LooksAt own) : g.toSource.LooksAt own := by
  intro expansion identifier context
  change (g.answer expansion identifier context).LooksAt own
  unfold answer
  cases hchoose : g.choose expansion identifier with
  | none => exact .pure _
  | some chosen =>
      obtain ⟨h, argument⟩ := chosen
      refine Exec.Same.bind (admits_looksAt hg.locator h context) fun admitted => ?_
      cases admitted with
      | false => exact .pure _
      | true =>
          refine (Exec.Same.report _).bind fun _ =>
            Exec.Same.bind (hg.handler expansion identifier h argument hchoose _) fun outcome => ?_
          cases outcome with
          | value | decline => exact .pure _
          | failure | panic => exact (Exec.Same.report _).bind fun _ => .pure _

end Registry

/-! ## Resolvers -/

/-- Two states with the same cache and the same in a part of the state of foreign code. Which custom
resolvers are in use in either of them is said too. -/
structure State.Beside (own : σ → τ) (customs customs' : Customs σ) (s u : State σ) : Prop where
  customs_eq : s.customs = customs
  customs_eq' : u.customs = customs'
  cache : u.cache = s.cache
  own : own u.host = own s.host

variable {own : σ → τ} {customs customs' : Customs σ} {s u : State σ}

namespace State.Beside

theorem withHost (h : s.Beside own customs customs' u) {host host' : σ}
    (hown : own host' = own host) :
    State.Beside own customs customs' { s with host } { u with host := host' } :=
  ⟨h.customs_eq, h.customs_eq', h.cache, hown⟩

theorem withCache (h : s.Beside own customs customs' u) (cache : Option Cache) :
    State.Beside own customs customs' { s with cache } { u with cache } :=
  ⟨h.customs_eq, h.customs_eq', rfl, h.own⟩

theorem keep (h : s.Beside own customs customs' u) (key : Key) (value : String) (ttl : Ttl) :
    (s.keep key value ttl).Beside own customs customs' (u.keep key value ttl) := by
  unfold State.keep
  rw [h.cache]
  exact h.withCache _

theorem fetch (h : s.Beside own customs customs' u) (key : Key) :
    (u.fetch key).1 = (s.fetch key).1 ∧
      (s.fetch key).2.Beside own customs customs' (u.fetch key).2 := by
  unfold State.fetch
  rw [h.cache]
  cases hcache : s.cache with
  | none => exact ⟨rfl, h⟩
  | some cache => exact ⟨rfl, h.withCache _⟩

theorem consult (h : s.Beside own customs customs u) (hcustoms : Customs.Aloof own customs)
    (token : Token) (context : Context) :
    (u.consult token context).value? = (s.consult token context).value? ∧
      (u.consult token context).events = (s.consult token context).events ∧
      own (s.consult token context).host = own s.host ∧
      own (u.consult token context).host = own u.host := by
  unfold State.consult
  rw [h.customs_eq, h.customs_eq']
  cases hfind : customs.ofExpansion? token.expansion with
  | none => exact ⟨rfl, rfl, rfl, rfl⟩
  | some custom =>
      obtain ⟨outcome, hrun⟩ := hcustoms _ custom hfind
      obtain ⟨host, hs, hown⟩ := hrun context token.identifier s.host
      obtain ⟨host', hu, hown'⟩ := hrun context token.identifier u.host
      simp only [hs, hu]
      exact ⟨trivial, trivial, hown, hown'⟩

end State.Beside

namespace Resolver

variable {r : Resolver σ} {token : Token} {context : Context}

theorem produce_beside (hr : r.LooksAt own) (token : Token) (context : Context) :
    Exec.Same (State.Beside own customs customs') (r.produce token context)
      (r.produce token context) := by
  unfold produce
  cases hsource : r.source with
  | none => exact .settled _ _ _ _
  | some source =>
      refine Exec.Same.bind ?_ fun answer => ?_
      · intro s u h
        obtain ⟨hresult, hevents, hown⟩ :=
          hr source hsource token.expansion token.identifier context _ _ h.own
        exact ⟨hresult, hevents, h.withHost hown⟩
      · cases answer with
        | value text =>
            exact (Exec.Same.change fun s u h => h.keep _ _ _).bind fun _ => .settled _ _ _ _
        | cached | empty => exact .settled _ _ _ _

/-- What comes behind the question to the custom resolvers does not depend on them. -/
theorem lookup_beside (hr : r.LooksAt own) (token : Token) (context : Context) :
    Exec.Same (State.Beside own customs customs') (r.lookup token context)
      (r.lookup token context) := by
  refine Exec.Same.read fun s u h => ?_
  rw [h.cache]
  split
  · exact produce_beside hr token context s u h
  · refine Exec.Same.bind (Exec.Same.update fun s u h => h.fetch _) (fun found => ?_) s u h
    cases found with
    | some text => exact (Exec.Same.report _).bind fun _ => .settled _ _ _ _
    | none => exact (Exec.Same.report _).bind fun _ => produce_beside hr token context

/-- What comes behind the question to the custom resolvers leaves them in use. -/
theorem lookup_customs (r : Resolver σ) (token : Token) (context : Context) (s : State σ) :
    (r.lookup token context s).state.customs = s.customs :=
  (lookup_beside r.looksAt_id token context s s ⟨rfl, rfl, rfl, rfl⟩).state.customs_eq

theorem customValue_beside (hcustoms : Customs.Aloof own customs) (inner inner' : Inner σ)
    (token : Token) (context : Context) :
    Exec.Same (State.Beside own customs customs) (customValue inner token context)
      (customValue inner' token context) := by
  intro s u h
  obtain ⟨hvalue, hevents, hown, hown'⟩ := h.consult hcustoms token context
  rw [customValue_apply (h.customs_eq ▸ hcustoms.direct),
    customValue_apply (h.customs_eq' ▸ hcustoms.direct)]
  exact ⟨congrArg Except.ok hvalue, hevents, h.withHost (hown'.trans (h.own.trans hown.symm))⟩

/-- If custom resolvers are aloof, the work of a resolver comes to the same in states that are
beside each other, and stays so. -/
theorem lockstep_beside (hr : r.LooksAt own) (hcustoms : Customs.Aloof own customs) :
    r.Lockstep r fun x y => Exec.Same (State.Beside own customs customs) x y where
  said := rfl
  refuses _ := rfl
  value := .pure
  panic := .panic
  bind := .bind
  attempt := .attempt
  customValue _ := customValue_beside hcustoms _ _
  gate _ _ := .settled _ _ _ _
  custom _ _ _ := .settled _ _ _ _
  refusal _ _ _ := .settled _ _ _ _
  lookup _ := lookup_beside hr _ _

end Resolver
end Placeholder
