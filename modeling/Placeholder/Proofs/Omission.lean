import Placeholder.Proofs.Precedence

/-!
# What custom resolvers have answered can be left out

A question for a single token that a custom resolver has answered leaves no trace in what the others
see: the cache stays as it is, and so does all that handlers look at. Without such questions a run
has the same replies to all others, the same calls of handlers, and the same cache in the end.
-/
namespace Placeholder

variable {σ τ : Type}

/-! ## Questions that custom resolvers have answered -/

/-- The call was a question for a single token, and a custom resolver has answered it. -/
def Call.overruled (call : Call σ) (report : Report (State σ) Reply) : Bool :=
  match call, report.result, report.events.getLast? with
  | .ask query, .ok _, some (.settled _ _ .custom _) => query.isSingle
  | _, _, _ => false

theorem Call.overruled_iff {call : Call σ} {report : Report (State σ) Reply} :
    call.overruled report = true ↔ ∃ query reply token context answer, call = .ask query ∧
      query.isSingle = true ∧ report.result = .ok reply ∧
      report.events.getLast? = some (.settled token context .custom answer) := by
  constructor
  · intro h
    unfold overruled at h
    split at h
    · rename_i query reply token context answer hresult hlast
      exact ⟨query, reply, token, context, answer, rfl, h, hresult, hlast⟩
    · cases h
  · rintro ⟨query, reply, token, context, answer, rfl, hsingle, hresult, hlast⟩
    simp [overruled, hresult, hlast, hsingle]

namespace Resolver

variable {r : Resolver σ} {inner : Inner σ} {token : Token} {context : Context} {s : State σ}

theorem proceed_tells (r : Resolver σ) (token : Token) (context : Context) :
    (r.proceed token context).Tells token context (· ≠ .custom) := by
  unfold proceed
  split
  · exact .settled (by decide) _
  · exact r.lookup_tells token context

/-- What comes of a token that a custom resolver answers. -/
def answered (s : State σ) (token : Token) (context : Context) (text : String) :
    Report (State σ) Answer :=
  ⟨.ok (.value text), s.consulted token context,
    (s.consult token context).events ++ [.settled token context .custom (.value text)]⟩

theorem settle_cases (hs : s.customs.Direct) (inner : Inner σ) (token : Token)
    (context : Context) :
    (∃ text, r.settle inner token context s = answered s token context text) ∨
      (r.settle inner token context s).Tells token context (· ≠ .custom) := by
  by_cases hp : Passes token context
  · rw [settle_of_passes hp, Exec.bind_apply, customValue_apply hs]
    cases (s.consult token context).value? with
    | some text => exact .inl ⟨text, rfl⟩
    | none => exact .inr ((r.proceed_tells token context _).after _)
  · right
    unfold settle
    rw [if_pos (eq_true_of_ne_false (mt gate_eq_false_iff.mp hp))]
    exact Exec.Tells.settled (by decide) .empty s

/-- A question that a custom resolver has answered was put to it and to nobody else. -/
theorem perform_overruled (hs : s.customs.Direct) {call : Call σ}
    (h : call.overruled (call.perform r s) = true) :
    ∃ token context text, (call.perform r s).state = s.consulted token context ∧
      (call.perform r s).events = (answered s token context text).events := by
  obtain ⟨query, reply, t, c, a, rfl, hsingle, hresult, hlast⟩ := Call.overruled_iff.mp h
  simp only [Call.perform] at hresult hlast ⊢
  rcases Query.perform_single r hsingle with hperform | ⟨token, hperform⟩
  · rw [hperform] at hlast
    cases hlast
  · rw [hperform, Exec.bind_pure_apply] at hresult hlast ⊢
    rcases settle_cases (r := r) hs r.inner token query.context with ⟨text, hsettle⟩ | htells
    · exact ⟨token, query.context, text, by rw [hsettle]; rfl, by rw [hsettle]⟩
    · cases hanswer : (r.settle r.inner token query.context s).result with
      | error p =>
          rw [hanswer] at hresult
          cases hresult
      | ok answer =>
          obtain ⟨_, horigin, hother⟩ := htells answer hanswer
          rw [hlast] at hother
          cases hother
          exact (horigin rfl).elim

/-! ## Runs -/

/-- The calls of a run, each with its report. -/
def reports (r : Resolver σ) : List (Call σ) → State σ → List (Call σ × Report (State σ) Reply)
  | [], _ => []
  | call :: rest, s =>
    let report := call.perform r s
    (call, report) :: r.reports rest report.state

/-- The calls of a run but for the single tokens that custom resolvers have answered. -/
def spared (r : Resolver σ) (calls : List (Call σ)) (s : State σ) :
    List (Call σ × Report (State σ) Reply) :=
  (r.reports calls s).filter fun x => !x.1.overruled x.2

end Resolver

/-- The request with which a handler was called. -/
def Event.request? : Event → Option Request
  | handlerCalled request => some request
  | _ => none

/-- All calls of handlers. -/
def requests (events : List Event) : List Request := events.filterMap Event.request?

@[simp] theorem requests_append (first second : List Event) :
    requests (first ++ second) = requests first ++ requests second :=
  List.filterMap_append

theorem requests_consult (s : State σ) (token : Token) (context : Context) :
    requests (s.consult token context).events = [] := by
  unfold State.consult
  split
  · rfl
  · split
    · rename_i outcome host _
      cases outcome <;> rfl
    · rfl

def Call.Aloof (own : σ → τ) : Call σ → Prop
  | register _ custom => custom.Aloof own
  | _ => True

namespace State.Beside

variable {own : σ → τ} {customs : Customs σ} {r : Resolver σ} {s u : State σ} {call : Call σ}

theorem onCache (h : s.Beside own customs customs u) (f : Cache → Cache) :
    (s.onCache f).Beside own customs customs (u.onCache f) := by
  unfold State.onCache
  rw [h.cache]
  exact h.withCache _

theorem withCustoms (h : s.Beside own customs customs u) (customs' : Customs σ) :
    State.Beside own customs' customs' { s with customs := customs' }
      { u with customs := customs' } :=
  ⟨rfl, rfl, h.cache, h.own⟩

theorem perform (h : s.Beside own customs customs u) (hcustoms : Customs.Aloof own customs)
    (hr : r.LooksAt own) (hcall : call.Aloof own) :
    ∃ customs', Customs.Aloof own customs' ∧
      (call.perform r s).Same (State.Beside own customs' customs') (call.perform r u) := by
  have hsame : u.customs = s.customs := h.customs_eq'.trans h.customs_eq.symm
  cases call with
  | ask query =>
      exact ⟨customs, hcustoms, (Resolver.lockstep_beside hr hcustoms).query query s u h⟩
  | register expansion custom =>
      have hnext := h.withCustoms (s.customs.register expansion custom).2
      refine ⟨_, ?_, ?_, rfl, hnext.customs_eq, ?_, h.cache, h.own⟩
      · rw [h.customs_eq]
        exact Customs.forall_register hcustoms hcall expansion
      · simp [Call.perform, Exec.bind_apply, State.registerCustom, hsame, Report.after]
      · simp [Call.perform, Exec.bind_apply, State.registerCustom, hsame, Report.after]
  | unregister expansion =>
      have hnext := h.withCustoms (s.customs.unregister expansion).2
      refine ⟨_, ?_, ?_, rfl, hnext.customs_eq, ?_, h.cache, h.own⟩
      · rw [h.customs_eq]
        exact Customs.forall_unregister hcustoms expansion
      · simp [Call.perform, Exec.bind_apply, State.unregisterCustom, hsame, Report.after]
      · simp [Call.perform, Exec.bind_apply, State.unregisterCustom, hsame, Report.after]
  | invalidate | invalidateSubject | clear | advance | setClock =>
      exact ⟨customs, hcustoms, rfl, rfl, h.onCache _⟩

theorem overruled (h : s.Beside own customs customs u) (hcustoms : Customs.Aloof own customs)
    (hcall : call.overruled (call.perform r s) = true) :
    (call.perform r s).state.Beside own customs customs u ∧
      requests (call.perform r s).events = [] := by
  have hdirect : s.customs.Direct := h.customs_eq ▸ hcustoms.direct
  obtain ⟨token, context, text, hstate, hevents⟩ := Resolver.perform_overruled hdirect hcall
  obtain ⟨-, -, hown, -⟩ := h.consult hcustoms token context
  rw [hstate, hevents]
  refine ⟨⟨h.customs_eq, h.customs_eq', h.cache, h.own.trans hown.symm⟩, ?_⟩
  rw [Resolver.answered, requests_append, requests_consult]
  rfl

end State.Beside

namespace Resolver

/-- A run without the single tokens that custom resolvers have answered, compared with the whole
run. -/
structure Undisturbed (r : Resolver σ) (calls : List (Call σ)) (s u : State σ) : Prop where
  /-- All other calls have the replies that they have in the whole run. -/
  replies : (r.run ((r.spared calls s).map Prod.fst) u).replies =
    (r.spared calls s).map fun x => x.2.result
  /-- They report the same. -/
  told : r.log ((r.spared calls s).map Prod.fst) u = (r.spared calls s).flatMap fun x => x.2.events
  /-- The handlers are called with the same requests. -/
  requests : requests (r.log ((r.spared calls s).map Prod.fst) u) = requests (r.log calls s)
  /-- The cache is the same in the end. -/
  cache : (r.run ((r.spared calls s).map Prod.fst) u).state.cache = (r.run calls s).state.cache

variable {own : σ → τ} {r : Resolver σ} {calls : List (Call σ)} {s u : State σ}

theorem undisturbed {customs : Customs σ} (hr : r.LooksAt own)
    (hcustoms : Customs.Aloof own customs) (hcalls : ∀ call ∈ calls, call.Aloof own)
    (h : s.Beside own customs customs u) : r.Undisturbed calls s u := by
  induction calls generalizing customs s u with
  | nil => exact ⟨rfl, rfl, rfl, h.cache⟩
  | cons call rest ih =>
      obtain ⟨hcall, hrest⟩ := List.forall_mem_cons.mp hcalls
      by_cases hoverruled : call.overruled (call.perform r s) = true
      · obtain ⟨hbeside, hnone⟩ := h.overruled hcustoms hoverruled
        have hlater := ih hcustoms hrest hbeside
        have hspared : r.spared (call :: rest) s = r.spared rest (call.perform r s).state := by
          simp [spared, reports, hoverruled]
        refine ⟨?_, ?_, ?_, ?_⟩ <;> rw [hspared]
        · exact hlater.replies
        · exact hlater.told
        · rw [hlater.requests, log, requests_append, hnone, List.nil_append]
        · exact hlater.cache
      · obtain ⟨customs', hcustoms', hresult, hevents, hbeside⟩ := h.perform hcustoms hr hcall
        have hlater := ih hcustoms' hrest hbeside
        have hspared : r.spared (call :: rest) s =
            (call, call.perform r s) :: r.spared rest (call.perform r s).state := by
          simp [spared, reports, hoverruled]
        refine ⟨?_, ?_, ?_, ?_⟩ <;> rw [hspared]
        · simp only [List.map_cons, run, hresult, hlater.replies]
        · simp only [List.map_cons, log, hevents, hlater.told, List.flatMap_cons]
        · simp only [List.map_cons, log, hevents, requests_append, hlater.requests]
        · exact hlater.cache

/-- Custom resolvers come first, and nobody but who has asked them can tell. -/
structure CustomsFirst (r : Resolver σ) : Prop where
  /-- The custom resolvers in use are what the changes during a run have left. If all of them come
  back at once, the changes are those of the clients. -/
  changed : ∀ (calls : List (Call σ)) (cache : Option Cache) (host : σ), ∃ changes,
    r.Changes calls (.initial cache host) changes ∧
      (r.run calls (.initial cache host)).state.customs = Customs.after .empty changes ∧
      ((∀ call ∈ calls, call.Direct) → changes = calls.flatMap Call.changes)
  /-- If the last change that concerns the expansion of a token was the registration of a custom
  resolver, and this one comes back at once, then its value is the answer; and if it has none, it is
  as if there were no custom resolver for the expansion. -/
  overridden : ∀ (inner : Inner σ) (token : Token) (context : Context) (s : State σ)
    (changes : List (Customs.Change σ)) (custom : Custom σ) (outcome : Outcome) (host : σ),
    s.customs = Customs.after .empty changes → Customs.InUse changes token.expansion custom →
    Passes token context → custom context token.identifier s.host = .finish outcome host →
    r.Overridden inner token context s outcome host
  /-- Whatever comes into the cache during a run was made by the source in this run. -/
  kept : ∀ (calls : List (Call σ)) (s : State σ),
    r.Keeps s (r.log calls s) (r.run calls s).state
  /-- If what custom resolvers come to is settled by what they are asked, and they leave alone what
  handlers look at, a run can do without the single tokens that they have answered. -/
  undisturbed : ∀ {τ : Type} (own : σ → τ) (calls : List (Call σ)) (s : State σ),
    r.LooksAt own → Customs.Aloof own s.customs → (∀ call ∈ calls, call.Aloof own) →
    r.Undisturbed calls s s

theorem customs_first (r : Resolver σ) : r.CustomsFirst where
  changed calls cache host := by
    by_cases hcalls : ∀ call ∈ calls, call.Direct
    · have hempty : (State.initial cache host).customs.Direct := fun name custom hfind =>
        nomatch hfind
      have hchanges := r.changes_of_direct hempty hcalls
      exact ⟨_, hchanges, hchanges.customs_eq, fun _ => rfl⟩
    · obtain ⟨changes, hchanges⟩ := r.exists_changes calls (.initial cache host)
      exact ⟨changes, hchanges, hchanges.customs_eq, fun h => (hcalls h).elim⟩
  overridden inner token context s changes custom outcome host hs huse hp hrun := by
    have hfind : s.customs.ofExpansion? token.expansion = some custom := by
      rw [hs]
      exact Customs.ofExpansion?_after_iff.mpr huse
    exact Resolver.overridden hp hfind hrun
  kept := r.run_keeps
  undisturbed own calls s hr hcustoms hcalls :=
    undisturbed hr hcustoms hcalls ⟨rfl, rfl, rfl, rfl⟩

end Resolver

/-- A custom resolver that counts how often it was called. -/
def counting : Custom (Nat × Nat) := fun _ _ host => .finish (.value "c") (host.1 + 1, host.2)

/-- A handler that counts how often it was called, and tells the first time from the others. -/
def noticing : Handler (Nat × Nat) where
  expansion := "b"
  pattern := .any
  ttl := some .second
  run _ host := (.value (if host.2 = 0 then "first" else "later"), host.1, host.2 + 1)

/-- The two are asked in turn. -/
def inTurn : List (Call (Nat × Nat)) :=
  [.register "a" counting, .ask (.resolvePlaceholder "b_x" .empty),
    .ask (.resolvePlaceholder "a_x" .empty), .ask (.resolvePlaceholder "b_x" .empty),
    .ask (.resolvePlaceholder "a_y" .empty), .ask (.resolvePlaceholder "b_y" .empty)]

theorem inTurn_undisturbed :
    (Registry.single noticing).toResolver.LooksAt Prod.snd ∧
    (∀ call ∈ inTurn, call.Aloof Prod.snd) ∧
    ((Registry.single noticing).toResolver.spared inTurn (.withEmptyCache 2 ⟨0⟩ (0, 0))).map
        (fun x => x.2.result) =
      [.ok (.flag false), .ok (.answer (.value "first")), .ok (.answer (.cached "first")),
        .ok (.answer (.value "later"))] ∧
    (Registry.single noticing).toResolver.Undisturbed inTurn (.withEmptyCache 2 ⟨0⟩ (0, 0))
      (.withEmptyCache 2 ⟨0⟩ (0, 0)) := by
  have hlooks : (Registry.single noticing).LooksAt Prod.snd := by
    constructor
    case handler =>
      intro expansion identifier h argument hchoose request host host' hown
      obtain rfl := Registry.choose_single hchoose
      simp only [Exec.update_apply, noticing, hown]
      exact ⟨rfl, rfl, rfl⟩
    case locator =>
      intro locator hlocator
      cases hlocator
  have hsource : (Registry.single noticing).toResolver.LooksAt Prod.snd := by
    intro source h
    cases h
    exact hlooks.source
  have hcounting : counting.Aloof Prod.snd :=
    ⟨fun _ _ => .value "c", fun _ _ host => ⟨(host.1 + 1, host.2), rfl, rfl⟩⟩
  have hcalls : ∀ call ∈ inTurn, call.Aloof Prod.snd := by
    simp [inTurn, Call.Aloof, hcounting]
  refine ⟨hsource, hcalls, by decide +kernel, ?_⟩
  exact (Resolver.customs_first _).undisturbed Prod.snd inTurn _ hsource Customs.forall_empty hcalls

/-- A custom resolver that makes the handler think that it was called before. -/
def meddling (outcome : Outcome) : Custom (Nat × Nat) :=
  fun _ _ host => .finish outcome (host.1, host.2 + 1)

theorem meddling_steady (outcome : Outcome) : (meddling outcome).Steady :=
  ⟨fun _ _ => outcome, fun _ _ _ => ⟨_, rfl⟩⟩

/-- It shows that a custom resolver was asked, though it comes to the same whenever it is asked, if
a handler goes by what it leaves: in later questions if it has a value, and at once if it has
none. -/
theorem Resolver.meddling_shows :
    (¬ ∀ (g : Registry (Nat × Nat)) (calls : List (Call (Nat × Nat))) (s : State (Nat × Nat)),
      g.Calm → Customs.Steady s.customs →
      (∀ expansion custom, .register expansion custom ∈ calls → custom.Steady) →
      g.toResolver.Undisturbed calls s s) ∧
    ¬ ∀ (g : Registry (Nat × Nat)) (s : State (Nat × Nat)) (token : Token) (context : Context),
      g.Calm → Customs.Steady s.customs → Passes token context →
      (s.consult token context).value? = none →
      (g.toResolver.resolveToken token context s).result =
        (g.toResolver.resolveToken token context
          (s.unregisterCustom token.expansion).2).result := by
  have hcalm : (Registry.single noticing).Calm := Registry.single_calm _
  constructor
  · intro hclaim
    have hundisturbed := hclaim (.single noticing)
      [.register "a" (meddling (.value "c")), .ask (.resolvePlaceholder "a_x" .empty),
        .ask (.resolvePlaceholder "b_x" .empty)]
      (.initial none (0, 0)) hcalm Customs.forall_empty (by simp [meddling_steady])
    exact absurd hundisturbed.replies (by decide +kernel)
  · intro hclaim
    have hcustoms : Customs.Steady
        ((State.initial none (0, 0)).registerCustom "b" (meddling .decline)).2.customs :=
      Customs.forall_register Customs.forall_empty (meddling_steady _) "b"
    have hsame := hclaim (.single noticing)
      ((State.initial none (0, 0)).registerCustom "b" (meddling .decline)).2
      ⟨0, 3, "b", "x", false⟩ .empty hcalm hcustoms (by decide) (by decide +kernel)
    exact absurd hsame (by decide +kernel)

end Placeholder
