import Placeholder.Proofs.Aloofness
import Placeholder.Proofs.Containment
import Placeholder.Proofs.Counting
import Placeholder.Proofs.Registration

/-!
# What one broken handler reaches

Two registries that differ in nothing but what one handler does are compared over a whole text. The
handler shares the cache and the state of foreign code with everybody else. But what it does is seen
under its own keys alone, as long as the others look at a part of the foreign state that it leaves
alone: tokens of other keys come to the same, and the texts differ in no other places. A handler
that has no value leaves its token without one, and nothing under the key of the token.
-/
namespace Placeholder

variable {σ τ : Type}

/-! ## Another body for one handler -/

/-- Where a registry files a handler. No other one of the registry has the same place. -/
def Handler.place (h : Handler σ) : String × Pattern := (h.expansion, h.pattern)

/-- The handler with another body, if it is the one at a place. -/
def Handler.rebody (place : String × Pattern) (body : Request → σ → Outcome × σ) (h : Handler σ) :
    Handler σ :=
  if h.place = place then { h with run := body } else h

theorem Handler.rebody_of_eq {place : String × Pattern} {h : Handler σ} (hplace : h.place = place)
    (body : Request → σ → Outcome × σ) : h.rebody place body = { h with run := body } :=
  if_pos hplace

theorem Handler.rebody_of_ne {place : String × Pattern} {h : Handler σ} (hplace : h.place ≠ place)
    (body : Request → σ → Outcome × σ) : h.rebody place body = h :=
  if_neg hplace

theorem Handler.rebody_said (place : String × Pattern) (body : Request → σ → Outcome × σ)
    (h : Handler σ) : h.rebody place body = { h with run := (h.rebody place body).run } := by
  unfold rebody
  split_ifs <;> rfl

namespace Registry

/-- The registry with another body for the handler at a place. -/
def rebody (place : String × Pattern) (body : Request → σ → Outcome × σ) (g : Registry σ) :
    Registry σ :=
  g.map (Handler.rebody place body)

/-- The token selects the handler at a place. -/
def SelectsAt (g : Registry σ) (place : String × Pattern) (token : Token) : Prop :=
  ∃ h argument, g.choose token.expansion token.identifier = some (h, argument) ∧ h.place = place

variable {g : Registry σ} {place : String × Pattern} {body : Request → σ → Outcome × σ}

/-- However a registry has come about, no two handlers that it chooses have the same place. -/
theorem place_unique {changes : List (Change σ)} {e e' i i' : String} {h h' : Handler σ}
    {argument argument' : Option String}
    (hchoose : (after changes).choose e i = some (h, argument))
    (hchoose' : (after changes).choose e' i' = some (h', argument'))
    (hplace : h.place = h'.place) : h = h' := by
  have hfiles : ∀ {e i h argument}, (after changes).choose e i = some (h, argument) →
      (after changes).Files h.expansion h.pattern h := by
    intro e i h argument hchoose
    obtain ⟨_, hinUse, -⟩ := (choose_after_iff.mp hchoose).exists_files
    exact (files_after_iff changes _ _ h).mpr ⟨hinUse, rfl, rfl⟩
  obtain ⟨hexpansion, hpattern⟩ := Prod.mk.inj hplace
  obtain ⟨family, hfind, hh⟩ := hfiles hchoose
  obtain ⟨family', hfind', hh'⟩ := hfiles hchoose'
  rw [← hexpansion, hfind] at hfind'
  cases hfind'
  rw [← hpattern] at hh'
  exact (after_ordered changes _ _ hfind).1.files_unique _ _ _ hh hh'

theorem isRelational_rebody (expansion identifier : String) :
    (g.rebody place body).isRelational expansion identifier =
      g.isRelational expansion identifier := by
  unfold isRelational rebody
  rw [choose_map]
  cases g.choose expansion identifier with
  | none => rfl
  | some chosen =>
      simp only [Option.map_some]
      rw [Handler.rebody_said]

theorem admits_rebody (h : Handler σ) (context : Context) :
    (g.rebody place body).admits (h.rebody place body) context = g.admits h context := by
  rw [Handler.rebody_said]
  rfl

theorem Calm.rebody (hg : g.Calm) : (g.rebody place body).Calm := hg

end Registry

/-! ## Out of sight -/

/-- The custom resolver goes by a part of the foreign state alone, also in what it leaves there, and
comes back at once. -/
def Custom.LooksAt (own : σ → τ) (custom : Custom σ) : Prop :=
  ∀ context identifier host host', own host' = own host → ∃ outcome left left',
    custom context identifier host = .finish outcome left ∧
      custom context identifier host' = .finish outcome left' ∧ own left' = own left

def Customs.LooksAt (own : σ → τ) (customs : Customs σ) : Prop :=
  ∀ name custom, customs.find? name = some custom → Custom.LooksAt own custom

theorem Customs.LooksAt.direct {own : σ → τ} {customs : Customs σ}
    (h : Customs.LooksAt own customs) : Customs.Direct customs := by
  intro name custom hfind context identifier host
  obtain ⟨outcome, left, -, hrun, -⟩ := h name custom hfind context identifier host host rfl
  exact ⟨outcome, left, hrun⟩

/-- All foreign code but one handler looks at a part of the foreign state, and the handler leaves
that part alone, with the one body and with the other. If the part is nothing at all, whatever the
others come to is a function of what they are asked. -/
structure Secluded (own : σ → τ) (g : Registry σ) (customs : Customs σ)
    (place : String × Pattern) (body : Request → σ → Outcome × σ) : Prop where
  customs : Customs.LooksAt own customs
  locator : ∀ locator, g.locator = some locator → ∀ whom, (Exec.update (locator whom)).LooksAt own
  others : ∀ expansion identifier h argument,
    g.choose expansion identifier = some (h, argument) → h.place ≠ place →
      ∀ request, (Exec.update (h.run request)).LooksAt own
  apart : ∀ expansion identifier h argument,
    g.choose expansion identifier = some (h, argument) → h.place = place →
      ∀ request host, own (h.run request host).2 = own host
  apart' : ∀ request host, own (body request host).2 = own host

namespace Secluded

variable {own : σ → τ} {g : Registry σ} {customs : Customs σ} {place : String × Pattern}
  {body : Request → σ → Outcome × σ}

theorem answer (h : Secluded own g customs place body) (hg : g.Calm) (expansion identifier : String)
    (context : Context) {host host' : σ} (hown : own host' = own host) :
    own ((g.rebody place body).answer expansion identifier context host').state =
        own (g.answer expansion identifier context host).state ∧
      (((g.rebody place body).answer expansion identifier context host').result =
          (g.answer expansion identifier context host).result ∨
        ∃ chosen argument, g.choose expansion identifier = some (chosen, argument) ∧
          chosen.place = place) := by
  unfold Registry.answer
  rw [Registry.rebody, Registry.choose_map, ← Registry.rebody]
  cases hchoose : g.choose expansion identifier with
  | none => exact ⟨hown, .inl rfl⟩
  | some c =>
      obtain ⟨chosen, argument⟩ := c
      have hsame := Registry.admits_looksAt h.locator chosen context host host' hown
      obtain ⟨admitted, left, hadmits⟩ := Registry.admits_apply hg chosen context host
      obtain ⟨admitted', left', hadmits'⟩ := Registry.admits_apply hg chosen context host'
      rw [hadmits, hadmits'] at hsame
      obtain rfl : admitted' = admitted := Except.ok.inj hsame.result
      have hleft : own left' = own left := hsame.state
      simp only [Option.map_some, Exec.bind_apply, Registry.admits_rebody, hadmits, hadmits',
        Report.after_nil]
      cases admitted' with
      | false => exact ⟨hleft, .inl rfl⟩
      | true =>
          simp only [if_true, Handler.call_apply]
          by_cases hplace : chosen.place = place
          · rw [Handler.rebody_of_eq hplace]
            refine ⟨?_, .inr ⟨chosen, argument, rfl, hplace⟩⟩
            exact (h.apart' _ left').trans
              (hleft.trans (h.apart _ _ chosen argument hchoose hplace _ left).symm)
          · rw [Handler.rebody_of_ne hplace]
            have hrun := h.others _ _ chosen argument hchoose hplace
              ⟨chosen.expansion, identifier, argument, context⟩ left left' hleft
            have houtcome := Except.ok.inj hrun.result
            exact ⟨hrun.state, .inl (by rw [houtcome])⟩

/-- Custom resolvers say the same in states that agree, and leave the part in the same condition. -/
theorem consult {s u : State σ} (h : Secluded own g s.customs place body)
    (hcustoms : u.customs = s.customs) (hown : own u.host = own s.host) (token : Token)
    (context : Context) :
    (u.consult token context).value? = (s.consult token context).value? ∧
      own (u.consult token context).host = own (s.consult token context).host := by
  unfold State.consult
  rw [hcustoms]
  cases hfind : s.customs.ofExpansion? token.expansion with
  | none => exact ⟨rfl, hown⟩
  | some custom =>
      obtain ⟨outcome, left, left', hrun, hrun', hleft⟩ :=
        h.customs _ custom hfind context token.identifier s.host u.host hown
      simp only [hrun, hrun']
      exact ⟨trivial, hleft⟩

end Secluded

/-! ## One resolution -/

namespace Resolver

/-- How a resolution ends that does not come as far as to the source. -/
def early? (r : Resolver σ) (s : State σ) (token : Token) (context : Context) : Option Verdict :=
  if Passes token context then
    match (s.consult token context).value? with
    | some text => some (.custom text)
    | none =>
      if r.refuses token then some .refusal
      else (s.kept? (Key.ofToken token context)).map .kept
  else some .gate

variable {r : Resolver σ} {token : Token} {context : Context} {s u s' u' : State σ}
  {events events' : List Event} {origin origin' : Origin} {answer answer' : Answer}

/-- A resolution ends early, as the state says that it finds, or it is left to the source. -/
theorem Settles.early_cases (h : r.Settles token context s events origin answer s') :
    (∃ v, r.early? s token context = some v ∧ origin = v.origin ∧ answer = v.answer ∧
      s'.host = if v = .gate then s.host else (s.consult token context).host) ∨
    r.early? s token context = none ∧ ∃ u produced,
      u.host = (s.consult token context).host ∧
      r.Produces token context u produced origin answer s' := by
  unfold early?
  cases h with
  | gate hc => exact .inl ⟨.gate, if_neg hc, rfl, rfl, rfl⟩
  | @custom text hc hvalue =>
      exact .inl ⟨.custom text, by simp only [hc, hvalue, if_true], rfl, rfl, rfl⟩
  | refusal hc hvalue hrefuses =>
      exact .inl ⟨.refusal, by simp only [hc, hvalue, hrefuses, if_true], rfl, rfl, rfl⟩
  | @hit text _ _ hreach hcache hget =>
      have hkept := (State.kept?_of_get hcache hget).1
      refine .inl ⟨.kept text, ?_, rfl, rfl, rfl⟩
      simp [hreach.passes, hreach.declined, hreach.allowed, hkept]
  | @produced u _ _ events _ _ hreach hmissed hproduces =>
      have hkept : s.kept? (Key.ofToken token context) = none := (State.kept?_of_missed hmissed).1
      refine .inr ⟨?_, u, events, ?_, hproduces⟩
      · simp [hreach.passes, hreach.declined, hreach.allowed, hkept]
      · cases hmissed <;> rfl

theorem Produces.answered {g : Registry σ}
    (h : (r.over g).Produces token context s events origin answer s') :
    (g.answer token.expansion token.identifier context s.host).result = .ok answer ∧
      (g.answer token.expansion token.identifier context s.host).state = s'.host ∧
      origin = if answer = .empty then .nothing else .registry := by
  cases h with
  | sourceless hnone => cases hnone
  | nothing hsource hanswer | fresh hsource hanswer =>
      cases hsource
      change g.answer token.expansion token.identifier context s.host = _ at hanswer
      rw [hanswer]
      exact ⟨rfl, rfl, rfl⟩

theorem Produces.bySource (h : r.Produces token context s events origin answer s') :
    Settled.bySource ⟨token, context, origin, answer⟩ = true := by
  cases h <;> rfl

end Resolver

/-- The resolution came as far as to the registry, which selects the handler at a place. -/
def Settled.Through (g : Registry σ) (place : String × Pattern) (x : Settled) : Prop :=
  x.bySource = true ∧ g.SelectsAt place x.token

/-- Two resolutions that are the same, or at least of one token in one context if both of them went
through the handler at a place. -/
def Settled.SameBut (g : Registry σ) (place : String × Pattern) (x y : Settled) : Prop :=
  y = x ∨ x.Through g place ∧ y.Through g place ∧ y.token = x.token ∧ y.context = x.context

namespace Resolver

variable {r : Resolver σ} {g : Registry σ} {own : σ → τ} {place : String × Pattern}
  {body : Request → σ → Outcome × σ} {token : Token} {context : Context} {s u s' u' : State σ}
  {events events' : List Event} {origin origin' : Origin} {answer answer' : Answer}

theorem early?_rebody {p : Key → Prop} (hsecluded : Secluded own g s.customs place body)
    (hagree : State.Agree p s u) (hown : own u.host = own s.host)
    (hkey : p (Key.ofToken token context)) :
    (r.over (g.rebody place body)).early? u token context =
      (r.over g).early? s token context := by
  have hrefuses : (r.over (g.rebody place body)).refuses token = (r.over g).refuses token :=
    congrArg (!token.relational && ·) (g.isRelational_rebody token.expansion token.identifier)
  unfold early?
  rw [(hsecluded.consult hagree.customs hown token context).1, hagree.kept?_eq hkey, hrefuses]

/-- Both registries settle a token in the same way where what everybody else looks at is the same,
unless the handler is selected. -/
theorem Produces.rebody {customs : Customs σ} (hg : g.Calm)
    (h : (r.over g).Produces token context s events origin answer s')
    (h' : (r.over (g.rebody place body)).Produces token context u events' origin' answer' u')
    (hsecluded : Secluded own g customs place body) (hown : own u.host = own s.host) :
    own u'.host = own s'.host ∧
      Settled.SameBut g place ⟨token, context, origin, answer⟩
        ⟨token, context, origin', answer'⟩ := by
  obtain ⟨hresult, hleft, horigin⟩ := h.answered
  obtain ⟨hresult', hleft', horigin'⟩ := h'.answered
  obtain ⟨hstate, hsame⟩ := hsecluded.answer hg token.expansion token.identifier context hown
  rw [hleft, hleft'] at hstate
  refine ⟨hstate, ?_⟩
  rcases hsame with hsame | hselects
  · rw [hresult, hresult'] at hsame
    obtain rfl : answer' = answer := Except.ok.inj hsame
    obtain rfl : origin' = origin := horigin'.trans horigin.symm
    exact .inl rfl
  · exact .inr ⟨⟨h.bySource, hselects⟩, ⟨h'.bySource, hselects⟩, rfl, rfl⟩

/-- A token comes to the same over both registries, in states that agree on its key and on what
everybody else looks at, unless the handler is selected and asked. -/
theorem Settles.rebody {p : Key → Prop} (hg : g.Calm)
    (h : (r.over g).Settles token context s events origin answer s')
    (h' : (r.over (g.rebody place body)).Settles token context u events' origin' answer' u')
    (hsecluded : Secluded own g s.customs place body) (hagree : State.Agree p s u)
    (hown : own u.host = own s.host) (hkey : p (Key.ofToken token context)) :
    own u'.host = own s'.host ∧
      Settled.SameBut g place ⟨token, context, origin, answer⟩
        ⟨token, context, origin', answer'⟩ := by
  have hearly : (r.over (g.rebody place body)).early? u token context = _ :=
    early?_rebody hsecluded hagree hown hkey
  have hconsult := (hsecluded.consult hagree.customs hown token context).2
  rcases h.early_cases with ⟨v, hv, rfl, rfl, hhost⟩ | ⟨hnone, w, _, hw, hproduces⟩
  · rcases h'.early_cases with ⟨v', hv', rfl, rfl, hhost'⟩ | ⟨hnone', -⟩
    · obtain rfl : v' = v := Option.some.inj (hv'.symm.trans (hearly.trans hv))
      refine ⟨?_, .inl rfl⟩
      rw [hhost, hhost']
      split_ifs
      · exact hown
      · exact hconsult
    · rw [hearly, hv] at hnone'
      cases hnone'
  · rcases h'.early_cases with ⟨v', hv', -⟩ | ⟨-, w', _, hw', hproduces'⟩
    · rw [hearly, hnone] at hv'
      cases hv'
    · have hasked : own w'.host = own w.host := by rw [hw, hw', hconsult]
      exact hproduces.rebody hg hproduces' hsecluded hasked

/-- Tokens with different keys come to the same one after another, but for those that go through the
handler. -/
theorem Trace.rebody {p : Key → Prop} {trace trace' : List Settled} (hg : g.Calm)
    (h : (r.over g).Trace context s trace s')
    (h' : (r.over (g.rebody place body)).Trace context u trace' u')
    (htokens : trace'.map Settled.token = trace.map Settled.token)
    (hkeys : (trace.map Settled.token).Pairwise fun t v => t.key ≠ v.key)
    (hsecluded : Secluded own g s.customs place body) (hagree : State.Agree p s u)
    (hown : own u.host = own s.host)
    (hp : ∀ t ∈ trace.map Settled.token, p (Key.ofToken t context)) :
    List.Forall₂ (Settled.SameBut g place) trace trace' := by
  induction h generalizing u trace' p with
  | nil s =>
      obtain rfl := List.map_eq_nil_iff.mp htokens
      exact .nil
  | @cons s v s' token events origin answer trace hsettles _ ih =>
      cases h' with
      | nil => cases htokens
      | @cons _ v' _ token' _ _ _ trace' hsettles' hrest' =>
          obtain ⟨rfl, hrest⟩ := List.cons.inj htokens
          obtain ⟨hfirst, hlater⟩ := List.pairwise_cons.mp hkeys
          obtain ⟨hleft, hsame⟩ := hsettles.rebody hg hsettles' hsecluded hagree hown
            (hp _ List.mem_cons_self)
          have hafter : State.Agree (fun k => p k ∧ k ≠ Key.ofToken token' context) v v' :=
            ((hsettles.touches.symm.mono fun _ hk => hk.2).trans
              (hagree.mono fun _ hk => hk.1)).trans (hsettles'.touches.mono fun _ hk => hk.2)
          refine .cons hsame (ih hrest' hrest hlater (hsettles.customs_eq ▸ hsecluded) hafter hleft
            fun t ht => ⟨hp t (List.mem_cons_of_mem _ ht), ?_⟩)
          exact (Key.ofToken_ne (hfirst t ht) context).symm

end Resolver

/-! ## Handlers without a value -/

theorem Stage.Advances.slot?_eq_none {r : Resolver σ} {token : Token} {context : Context}
    {stage : Stage} {s s' : State σ} {visits : List Visit} {events : List Event}
    (h : Advances r token context stage s visits events atSource s') :
    s'.slot? (Key.ofToken token context) = none := by
  cases h with
  | missed hmissed => exact (State.kept?_of_missed hmissed).2.1

theorem Stage.Advances.nothing_of_mem {r : Resolver σ} {token : Token} {context : Context}
    {stage next : Stage} {s s' : State σ} {visits : List Visit} {events : List Event}
    (h : Advances r token context stage s visits events next s') {v : Visit} (hv : v ∈ visits)
    (hhandler : v.isCustom = false) (hnone : v.hasValue = false) :
    v.token = token ∧ stage = atSource ∧ next.hasEnded = true ∧
      ⟨token, context, .nothing, .empty⟩ ∈ settlements events ∧
      s'.slot? (Key.ofToken token context) = s.slot? (Key.ofToken token context) := by
  cases h with
  | gate | hit | missed | sourceless | keep => cases hv
  | custom | refusal | onward =>
      rcases s.visits_cases token context with ⟨hvisits, -⟩ | ⟨outcome, _, hvisits, -⟩
      · rw [hvisits] at hv
        cases hv
      · rw [hvisits, List.mem_singleton] at hv
        rw [hv] at hhandler
        cases hhandler
  | nothing _ hasked =>
      rcases hasked.visits_cases with ⟨rfl, -⟩ | ⟨expansion, argument, outcome, rfl, -⟩
      · cases hv
      · rw [List.mem_singleton] at hv
        refine ⟨hv ▸ rfl, rfl, rfl, ?_, rfl⟩
        rw [settlements_append, settlements_told]
        exact List.mem_cons_self
  | fresh _ hasked =>
      rcases hasked.visits_cases with ⟨rfl, -⟩ | ⟨expansion, argument, outcome, rfl, hvalue⟩
      · cases hv
      · rw [List.mem_singleton] at hv
        rw [hv, Visit.hasValue, Visit.outcome, ← hvalue] at hnone
        cases hnone

namespace Resolver

variable {r : Resolver σ} {context : Context} {s s' : State σ} {tasks tasks' : List Task}
  {visits : List Visit} {events : List Event}

theorem Works.slot?_eq (h : r.Works context tasks s visits events tasks' s')
    (hkeys : (tasks.map Task.token).Pairwise fun t v => t.key ≠ v.key) {task : Task}
    (htask : task ∈ tasks) (hended : task.hasEnded = true) :
    s'.slot? (Key.ofToken task.token context) = s.slot? (Key.ofToken task.token context) := by
  induction h with
  | refl => rfl
  | @turn before after tasks' token stage next s u s' visits visits' events events' hturn _ ih =>
      have hother : task ∈ before ++ after := by
        rcases List.mem_append.mp htask with hm | hm
        · exact List.mem_append_left _ hm
        · rcases List.mem_cons.mp hm with rfl | hm
          · rw [Task.hasEnded, hturn.not_hasEnded] at hended
            cases hended
          · exact List.mem_append_right _ hm
      have htask' : task ∈ before ++ ⟨token, next⟩ :: after := by
        rcases List.mem_append.mp hother with hm | hm <;> simp [hm]
      have hne := Task.key_ne hkeys hother
      have hnow : u.slot? (Key.ofToken task.token context) =
          s.slot? (Key.ofToken task.token context) :=
        hturn.touches.entry (Key.ofToken task.token context) (Key.ofToken_ne hne context).symm
      have hkeys' : ((before ++ ⟨token, next⟩ :: after).map Task.token).Pairwise
          fun t v => t.key ≠ v.key := by simpa using hkeys
      exact (ih hkeys' htask').trans hnow

/-- For all tasks that have come to the source there is nothing under their keys. -/
def Unkept (context : Context) (tasks : List Task) (s : State σ) : Prop :=
  ∀ task ∈ tasks, task.stage = .atSource → s.slot? (Key.ofToken task.token context) = none

theorem Unkept.turn {before after : List Task} {token : Token} {stage next : Stage}
    (h : Unkept context (before ++ ⟨token, stage⟩ :: after) s)
    (hkeys : ((before ++ ⟨token, stage⟩ :: after).map Task.token).Pairwise
      fun t v => t.key ≠ v.key)
    (hturn : stage.Advances r token context s visits events next s') :
    Unkept context (before ++ ⟨token, next⟩ :: after) s' := by
  have hother : ∀ task ∈ before ++ after, task.stage = .atSource →
      s'.slot? (Key.ofToken task.token context) = none := by
    intro task hm hstage
    have hne := Task.key_ne hkeys hm
    rw [hturn.touches.entry _ (Key.ofToken_ne hne context).symm]
    refine h task ?_ hstage
    rcases List.mem_append.mp hm with hm | hm <;> simp [hm]
  intro task htask hstage
  rcases List.mem_append.mp htask with hm | hm
  · exact hother task (List.mem_append_left _ hm) hstage
  · rcases List.mem_cons.mp hm with rfl | hm
    · obtain rfl : next = .atSource := hstage
      exact hturn.slot?_eq_none
    · exact hother task (List.mem_append_right _ hm) hstage

/-- Where a handler comes to no value, the resolution of its token is without one, and there is
nothing under the key of the token in the end. -/
theorem Works.nothing_left (h : r.Works context tasks s visits events tasks' s')
    (hkeys : (tasks.map Task.token).Pairwise fun t v => t.key ≠ v.key)
    (hunkept : Unkept context tasks s) {v : Visit} (hv : v ∈ visits)
    (hhandler : v.isCustom = false) (hnone : v.hasValue = false) :
    ⟨v.token, context, .nothing, .empty⟩ ∈ settlements events ∧
      s'.slot? (Key.ofToken v.token context) = none := by
  induction h with
  | refl => cases hv
  | @turn before after tasks' token stage next s u s' visits _ events _ hturn hrest ih =>
      have hkeys' : ((before ++ ⟨token, next⟩ :: after).map Task.token).Pairwise
          fun t v => t.key ≠ v.key := by simpa using hkeys
      rw [settlements_append, List.mem_append]
      rcases List.mem_append.mp hv with hv | hv
      · obtain ⟨hsame, rfl, hended, htold, hslot⟩ := hturn.nothing_of_mem hv hhandler hnone
        rw [hsame]
        have hlater : s'.slot? (Key.ofToken token context) = u.slot? (Key.ofToken token context) :=
          hrest.slot?_eq hkeys' (List.mem_append_right _ List.mem_cons_self) hended
        refine ⟨.inl htold, hlater.trans (hslot.trans ?_)⟩
        exact hunkept ⟨token, .atSource⟩ (List.mem_append_right _ List.mem_cons_self) rfl
      · obtain ⟨htold, hslot⟩ := ih hkeys' (hunkept.turn hkeys hturn) hv
        exact ⟨.inr htold, hslot⟩

/-! ## Texts -/

/-- What becomes of a text over two registries that differ in the body of the handler at a place. -/
structure DiffersAt (r : Resolver σ) (g : Registry σ) (place : String × Pattern)
    (fallback : Option String) (text : String) (context : Context) (events events' : List Event)
    (out out' : String) : Prop where
  /-- One resolution after another is made for the same token, and is the same unless it went
  through the handler. -/
  settled : List.Forall₂ (Settled.SameBut g place) (settlements events) (settlements events')
  /-- The texts are equal but in the places of tokens whose key was resolved through the handler. -/
  rendered : ∃ answers answers' : Answers,
    (∀ x ∈ settlements events, answers.find? x.token.key = some x.answer) ∧
    (∀ x ∈ settlements events', answers'.find? x.token.key = some x.answer) ∧
    out.toByteArray = weave (r.shown fallback answers text.toByteArray) text.toByteArray 0
      (r.delimiter.tokens text) ∧
    out'.toByteArray = weave (r.shown fallback answers' text.toByteArray) text.toByteArray 0
      (r.delimiter.tokens text) ∧
    ∀ t ∈ r.delimiter.tokens text,
      (∃ x ∈ settlements events, x.token.key = t.key ∧ x.Through g place) ∨
        r.shown fallback answers' text.toByteArray t = r.shown fallback answers text.toByteArray t

/-- All handlers that came to no value have left their tokens without one, and nothing under the
keys of the tokens. -/
def LeavesNothing (context : Context) (visits : List Visit) (events : List Event)
    (s' : State σ) : Prop :=
  ∀ v ∈ visits, v.isCustom = false → v.hasValue = false →
    ⟨v.token, context, .nothing, .empty⟩ ∈ settlements events ∧
      s'.slot? (Key.ofToken v.token context) = none

variable {g : Registry σ} {place : String × Pattern} {body : Request → σ → Outcome × σ}
  {fallback : Option String} {text out : String} {tokens : List Token}

theorem over_calm (r : Resolver σ) (hg : g.Calm) : (r.over g).Calm := by
  intro source hsource
  exact ⟨g, (Option.some.inj hsource).symm, hg⟩

theorem Resolved.leavesNothing (h : r.Resolved tokens fallback text context s visits events out s')
    (hkeys : tokens.Pairwise fun t u => t.key ≠ u.key) :
    LeavesNothing context visits events s' := by
  obtain ⟨tasks, hworks, -⟩ := h.works
  intro v hv hhandler hnone
  refine hworks.nothing_left (by simpa [Function.comp_def] using hkeys) ?_ hv hhandler hnone
  simp [Unkept]

theorem exists_sameBut {trace trace' : List Settled}
    (h : List.Forall₂ (Settled.SameBut g place) trace trace') {x : Settled} (hx : x ∈ trace) :
    ∃ y ∈ trace', x.SameBut g place y := by
  induction h with
  | nil => cases hx
  | @cons a b trace trace' hab _ ih =>
      rcases List.mem_cons.mp hx with rfl | hx
      · exact ⟨b, List.mem_cons_self, hab⟩
      · obtain ⟨y, hy, hxy⟩ := ih hx
        exact ⟨y, List.mem_cons_of_mem _ hy, hxy⟩

/-- Whatever a handler does, is confined to its own tokens: if its body is replaced by another one,
a text is resolved as before, but for the tokens whose keys are resolved through the handler. This
takes that the others go by a part of the foreign state that is out of the reach of the handler, for
example by nothing but what they are asked. Under either body, a token for which a handler comes to
no value is left without one, and so is the cache. -/
theorem breakage_confined {own : σ → τ} (hg : g.Calm)
    (hsecluded : Secluded own g s.customs place body) (r : Resolver σ) (text : String)
    (context : Context) (fallback : Option String) :
    ∃ visits visits' events events' out out' s' u',
      (r.over g).resolveWithFallback text context fallback s = ⟨.ok out, s', events⟩ ∧
      (r.over (g.rebody place body)).resolveWithFallback text context fallback s =
        ⟨.ok out', u', events'⟩ ∧
      (r.over g).Resolved (onePerKey (r.delimiter.tokens text).reverse) fallback text context s
        visits events out s' ∧
      (r.over (g.rebody place body)).Resolved (onePerKey (r.delimiter.tokens text).reverse) fallback
        text context s visits' events' out' u' ∧
      r.DiffersAt g place fallback text context events events' out out' ∧
      LeavesNothing context visits events s' ∧ LeavesNothing context visits' events' u' := by
  have hdirect := hsecluded.customs.direct
  have hg' : (g.rebody place body).Calm := hg.rebody
  have hkeys := onePerKey_pairwise (r.delimiter.tokens text).reverse
  obtain ⟨visits, events, out, s', hrun, hresolved, htrace, htokens⟩ :=
    resolveWithFallback_traced (r.over_calm hg) hdirect text context fallback
  obtain ⟨visits', events', out', u', hrun', hresolved', htrace', htokens'⟩ :=
    resolveWithFallback_traced (r.over_calm hg') hdirect text context fallback
  have hpairwise : ((settlements events).map Settled.token).Pairwise fun t v => t.key ≠ v.key :=
    htokens ▸ hkeys
  have hpairwise' : ((settlements events').map Settled.token).Pairwise fun t v => t.key ≠ v.key :=
    htokens' ▸ hkeys
  have hsame := htrace.rebody hg htrace' (htokens'.trans htokens.symm) hpairwise hsecluded
    (.refl (fun _ => True) s) rfl fun _ _ => trivial
  refine ⟨visits, visits', events, events', out, out', s', u', hrun, hrun', hresolved, hresolved',
    ⟨hsame, ?_⟩, hresolved.leavesNothing hkeys, hresolved'.leavesNothing hkeys⟩
  obtain ⟨answers, hanswers, hweave⟩ := hresolved.yields.weaves hpairwise s
  obtain ⟨answers', hanswers', hweave'⟩ := hresolved'.yields.weaves hpairwise' s
  refine ⟨answers, answers', hanswers, hanswers', hweave, hweave', fun t ht => ?_⟩
  obtain ⟨first, hfirst, hkey⟩ := exists_mem_onePerKey (List.mem_reverse.mpr ht)
  obtain ⟨x, hx, rfl⟩ := List.mem_map.mp (htokens ▸ hfirst)
  obtain ⟨y, hy, hxy | hthrough⟩ := exists_sameBut hsame hx
  · subst hxy
    have hfind : answers'.find? t.key = answers.find? t.key := by
      rw [← hkey, hanswers _ hx, hanswers' _ hy]
    right
    unfold shown
    rw [hfind]
  · exact .inl ⟨x, hx, hkey, hthrough.1⟩

end Resolver

/-- A handler that breaks down for one identifier, beside one that has a value for all others. -/
def faltering : Registry Nat where
  families := Table.empty.insert "a"
    { exact := Table.empty.insert "x"
        { expansion := "a", pattern := .exact "x", run := fun _ host => (.panic "x", host + 1) }
      leading := []
      any := some
        { expansion := "a", pattern := .any, run := fun _ host => (.value "ok", host + 1) } }
  defaultTtl := .standard
  locator := none

def mended : Request → Nat → Outcome × Nat := fun _ host => (.value "x", host + 5)

theorem choose_faltering {expansion identifier : String} {h : Handler Nat}
    {argument : Option String}
    (hchoose : faltering.choose expansion identifier = some (h, argument)) :
    h.place = ("a", .exact "x") ∨ h.run = fun _ host => (.value "ok", host + 1) := by
  simp only [Registry.choose, faltering, Table.find?_insert] at hchoose
  split_ifs at hchoose
  · simp only [Family.choose, Table.find?_insert] at hchoose
    split_ifs at hchoose
    · cases hchoose
      exact .inl rfl
    · cases hchoose
      exact .inr rfl
  · cases hchoose

theorem faltering_confined :
    faltering.Calm ∧
    Secluded (fun _ => ()) faltering (State.withEmptyCache 2 ⟨0⟩ 0).customs ("a", .exact "x")
      mended ∧
    ∃ visits events events' out out' s' u',
      Resolver.resolve (Resolver.over {} faltering) "%a_x% %a_y% %a_x%" .empty
        (.withEmptyCache 2 ⟨0⟩ 0) = ⟨.ok out, s', events⟩ ∧
      Resolver.resolve (Resolver.over {} (faltering.rebody ("a", .exact "x") mended))
        "%a_x% %a_y% %a_x%" .empty (.withEmptyCache 2 ⟨0⟩ 0) = ⟨.ok out', u', events'⟩ ∧
      Resolver.DiffersAt {} faltering ("a", .exact "x") none "%a_x% %a_y% %a_x%" .empty events
        events' out out' ∧
      Resolver.LeavesNothing .empty visits events s' := by
  have hcalm : faltering.Calm := by
    intro locator hl
    cases hl
  have hsecluded : Secluded (fun _ => ()) faltering (State.withEmptyCache 2 ⟨0⟩ 0).customs
      ("a", .exact "x") mended := by
    constructor
    case customs => exact Customs.forall_empty
    case locator =>
      intro locator hl
      cases hl
    case others =>
      intro expansion identifier h argument hchoose hplace request host host' _
      rw [(choose_faltering hchoose).resolve_left hplace]
      exact ⟨rfl, rfl, rfl⟩
    case apart => exact fun _ _ _ _ _ _ _ _ => rfl
    case apart' => exact fun _ _ => rfl
  obtain ⟨visits, -, events, events', out, out', s', u', hrun, hrun', -, -, hconfined, hleft, -⟩ :=
    Resolver.breakage_confined hcalm hsecluded {} "%a_x% %a_y% %a_x%" .empty none
  exact ⟨hcalm, hsecluded, visits, events, events', out, out', s', u', hrun, hrun', hconfined,
    hleft⟩

/-- The other token has its value in either case, though the replacements differ in length. -/
example :
    let text := "%a_x% %a_y% %a_x%"
    let resolve (g : Registry Nat) :=
      (Resolver.resolve (Resolver.over {} g) text .empty (.withEmptyCache 2 ⟨0⟩ 0)).result.toOption
    resolve faltering = some " ok " ∧
      resolve (faltering.rebody ("a", .exact "x") mended) = some "x ok x" := by
  decide +kernel

/-- What the forgetful handler does when it has nothing to say. -/
def mindful : Request → Bool → Outcome × Bool := fun _ lost => (.decline, lost)

/-- What a handler does shows at other tokens if the locator goes by it. -/
theorem Resolver.breakage_shows :
    ¬ ∀ (g : Registry Bool) (s : State Bool) (place : String × Pattern)
      (body : Request → Bool → Outcome × Bool) (text : String) (context : Context)
      (fallback : Option String), g.Calm → Customs.Steady s.customs →
      (∀ expansion identifier h argument,
        g.choose expansion identifier = some (h, argument) → h.place ≠ place → h.Steady) →
      List.Forall₂ (Settled.SameBut g place)
        (settlements ((Resolver.over {} g).resolveWithFallback text context fallback s).events)
        (settlements ((Resolver.over {} (g.rebody place body)).resolveWithFallback text context
          fallback s).events) := by
  intro hclaim
  have hcustoms : Customs.Steady (State.initial none false).customs := Customs.forall_empty
  have hsame := hclaim forgetful (.initial none false) ("c", .any) mindful "[%rel_a_x%]%c_y%"
    (.ofRelation ⟨1⟩ ⟨2⟩) none forgetful_calm hcustoms
    fun _ _ _ _ hchoose _ => forgetful_steady hchoose
  have hfirst : (settlements ((Resolver.over {} forgetful).resolveWithFallback "[%rel_a_x%]%c_y%"
      (.ofRelation ⟨1⟩ ⟨2⟩) none (.initial none false)).events).any (fun x =>
        x.token.expansion = "a" ∧ x.token.identifier = "x" ∧ x.answer = .empty) = true := by
    decide +kernel
  have hsecond : (settlements ((Resolver.over {}
      (forgetful.rebody ("c", .any) mindful)).resolveWithFallback "[%rel_a_x%]%c_y%"
      (.ofRelation ⟨1⟩ ⟨2⟩) none (.initial none false)).events).all (fun y =>
        y.token.expansion = "a" → y.answer = .value "near") = true := by
    decide +kernel
  have hplace : (forgetful.choose "a" "x").map (fun chosen => chosen.1.place) =
      some ("a", .any) := by
    decide +kernel
  obtain ⟨x, hx, hempty⟩ := List.any_eq_true.mp hfirst
  obtain ⟨he, hi, hanswer⟩ := of_decide_eq_true hempty
  obtain ⟨y, hy, hsame | ⟨⟨-, h, argument, hchoose, hc⟩, -⟩⟩ := exists_sameBut hsame hx
  · subst hsame
    have hnear := of_decide_eq_true (List.all_eq_true.mp hsecond y hy) he
    rw [hanswer] at hnear
    cases hnear
  · rw [he, hi] at hchoose
    rw [hchoose] at hplace
    simp [hc] at hplace

end Placeholder
