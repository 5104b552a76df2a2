import Placeholder.Proofs.Visits

/-!
# Each key once

However often a key occurs in a text, one single resolution is made for it, on the last of its
tokens, and all of its tokens are rendered with that one answer. Foreign code with a memory can tell
the difference: no custom resolver and no handler is called twice for one key. A pass makes its
resolutions from the end of the text to its start; tasks make the same ones in any order.
-/
namespace Placeholder

variable {σ : Type}

namespace Resolver

/-! ## The tokens that stand for their keys -/

theorem onePerKey_sublist (tokens : List Token) : (onePerKey tokens).Sublist tokens := by
  induction tokens with
  | nil => exact .slnil
  | cons t rest ih => exact (List.filter_sublist.trans ih).cons_cons t

theorem exists_mem_onePerKey {tokens : List Token} {t : Token} (ht : t ∈ tokens) :
    ∃ u ∈ onePerKey tokens, u.key = t.key := by
  induction tokens with
  | nil => cases ht
  | cons first rest ih =>
      by_cases hkey : first.key = t.key
      · exact ⟨first, List.mem_cons_self, hkey⟩
      · have hrest : t ∈ rest := (List.mem_cons.mp ht).resolve_left fun h => hkey (h ▸ rfl)
        obtain ⟨u, hu, hsame⟩ := ih hrest
        have hother : (u.key != first.key) = true := by
          simpa [hsame] using fun h => hkey (Eq.symm h)
        exact ⟨u, List.mem_cons_of_mem _ (List.mem_filter.mpr ⟨hu, hother⟩), hsame⟩

theorem onePerKey_first {R : Token → Token → Prop} {tokens : List Token} (h : tokens.Pairwise R)
    {t u : Token} (ht : t ∈ onePerKey tokens) (hu : u ∈ tokens) (hkey : u.key = t.key) :
    u = t ∨ R t u := by
  induction h with
  | nil => cases hu
  | @cons first rest hfirst _ ih =>
      rcases List.mem_cons.mp ht with rfl | ht
      · exact (List.mem_cons.mp hu).imp id (hfirst u)
      · obtain ⟨ht, hother⟩ := List.mem_filter.mp ht
        rcases List.mem_cons.mp hu with rfl | hu
        · simp [hkey] at hother
        · exact ih ht hu

theorem tokens_reverse_pairwise (d : Delimiter) (text : String) :
    (d.tokens text).reverse.Pairwise fun t u => u.start < t.start := by
  have hlaid := d.tokens_laid text
  rw [List.pairwise_reverse]
  apply hlaid.pairwise.imp_of_mem
  intro t u ht _ hstop
  have := hlaid.start_lt_stop t ht
  omega

/-- The last token of its key. -/
structure IsLast (d : Delimiter) (text : String) (t : Token) : Prop where
  mem : t ∈ d.tokens text
  last : ∀ u ∈ d.tokens text, u.key = t.key → u.start ≤ t.start

theorem isLast_of_mem {d : Delimiter} {text : String} {t : Token}
    (ht : t ∈ onePerKey (d.tokens text).reverse) : IsLast d text t := by
  refine ⟨List.mem_reverse.mp (onePerKey_subset ht), fun u hu hkey => ?_⟩
  have hpairwise := tokens_reverse_pairwise d text
  rcases onePerKey_first hpairwise ht (List.mem_reverse.mpr hu) hkey with rfl | h
  · exact Nat.le_refl _
  · exact Nat.le_of_lt h

end Resolver

/-! ## Visits -/

/-- Foreign code is called in one of two turns of a task. -/
theorem Stage.Advances.visits_cases {r : Resolver σ} {token : Token} {context : Context}
    {s s' : State σ} {stage next : Stage} {visits : List Visit} {events : List Event}
    (h : Advances r token context stage s visits events next s') :
    visits = [] ∨
      (∃ outcome, stage = waiting ∧ visits = [.custom token context outcome]) ∨
      ∃ expansion argument outcome, stage = atSource ∧
        visits = [.handler token context expansion argument outcome] := by
  cases h with
  | gate | hit | missed | sourceless | keep => exact .inl rfl
  | custom | refusal | onward =>
      rcases s.visits_cases token context with ⟨hnone, -⟩ | ⟨outcome, _, hone, -⟩
      · exact .inl hnone
      · exact .inr (.inl ⟨outcome, rfl, hone⟩)
  | nothing _ hasked | fresh _ hasked =>
      rcases hasked.visits_cases with ⟨hnone, -⟩ | ⟨expansion, argument, outcome, hone, -⟩
      · exact .inl hnone
      · exact .inr (.inr ⟨expansion, argument, outcome, rfl, hone⟩)

namespace Resolver

variable {r : Resolver σ} {context : Context} {tasks tasks' : List Task} {tokens : List Token}
  {s s' : State σ} {visits : List Visit} {events : List Event} {text out : String}
  {fallback : Option String}

theorem Works.visits_mem (h : r.Works context tasks s visits events tasks' s') :
    ∀ v ∈ visits, v.token ∈ tasks.map Task.token := by
  induction h with
  | refl => simp
  | @turn before after tasks' token stage next s u s' visits visits' events events' hturn _ ih =>
      intro v hv
      rcases List.mem_append.mp hv with hv | hv
      · have hv : v.token = token := by
          rcases hturn.visits_cases with rfl | ⟨_, -, rfl⟩ | ⟨_, _, _, -, rfl⟩
          · cases hv
          all_goals
            obtain rfl := List.mem_singleton.mp hv
            rfl
        simp [hv]
      · simpa using ih v hv

/-- A visit for a key, to a custom resolver or to a handler. -/
def isFor (key : String) (custom : Bool) (v : Visit) : Bool :=
  v.token.key == key && v.isCustom == custom

/-- The turns that a task must have left for a visit to be still to come. -/
def turnsNeeded (custom : Bool) : Nat := if custom then 4 else 2

/-- What a task for a key has left of the one visit of a kind. -/
def visitsLeft (key : String) (custom : Bool) (token : Token) (stage : Stage) : Nat :=
  if token.key = key ∧ turnsNeeded custom ≤ stage.turnsLeft then 1 else 0

/-- A task makes a visit of a kind in the turn for it, or none. -/
theorem countP_isFor_cases {key : String} {custom : Bool} {token : Token} {stage next : Stage}
    (h : stage.Advances r token context s visits events next s') :
    visits.countP (isFor key custom) = 0 ∨ visits.countP (isFor key custom) = 1 ∧
      token.key = key ∧ stage.turnsLeft = turnsNeeded custom := by
  rcases h.visits_cases with rfl | ⟨outcome, rfl, rfl⟩ | ⟨expansion, argument, outcome, rfl, rfl⟩
  · exact .inl rfl
  all_goals
    by_cases hkey : token.key = key <;> cases custom <;>
      simp [isFor, Visit.token, Visit.isCustom, hkey, turnsNeeded, Stage.turnsLeft]

theorem visitsLeft_step {key : String} {custom : Bool} {token : Token} {stage next : Stage}
    (h : stage.Advances r token context s visits events next s') :
    visits.countP (isFor key custom) + visitsLeft key custom token next ≤
      visitsLeft key custom token stage := by
  have hnearer := h.nearer
  unfold visitsLeft
  rcases countP_isFor_cases h with hnone | ⟨hone, hkey, hturn⟩
  · rw [hnone, Nat.zero_add]
    by_cases hleft : token.key = key ∧ turnsNeeded custom ≤ next.turnsLeft
    · rw [if_pos hleft, if_pos ⟨hleft.1, by omega⟩]
    · rw [if_neg hleft]
      exact Nat.zero_le _
  · rw [hone, if_neg fun hleft => by omega, if_pos ⟨hkey, by omega⟩]

theorem countP_key_le {tokens : List Token} (hkeys : tokens.Pairwise fun t u => t.key ≠ u.key)
    (key : String) : tokens.countP (fun t => t.key == key) ≤ 1 := by
  have hnodup : (tokens.map Token.key).Nodup := List.pairwise_map.mpr hkeys
  have hcount := List.nodup_iff_count_le_one.mp hnodup key
  rwa [List.count, List.countP_map] at hcount

theorem sum_visitsLeft (tokens : List Token) (key : String) (custom : Bool) :
    (tokens.map fun t => visitsLeft key custom t .waiting).sum =
      tokens.countP (fun t => t.key == key) := by
  have hneeded : turnsNeeded custom ≤ Stage.waiting.turnsLeft := by cases custom <;> decide
  induction tokens with
  | nil => rfl
  | cons t rest ih =>
      rw [List.map_cons, List.sum_cons, ih, List.countP_cons, Nat.add_comm]
      simp [visitsLeft, hneeded]

/-- Tasks with different keys call foreign code of a kind once for a key at most. -/
theorem Works.visits_once
    (h : r.Works context (tokens.map fun token => { token }) s visits events tasks' s')
    (hkeys : tokens.Pairwise fun t u => t.key ≠ u.key) (key : String) (custom : Bool) :
    visits.countP (isFor key custom) ≤ 1 := by
  have hbalance := h.le_balance (.ofVisits (isFor key custom)) .none (visitsLeft key custom)
    (fun hturn => by simpa using visitsLeft_step hturn)
  have hstart := sum_visitsLeft tokens key custom
  have hone := countP_key_le hkeys key
  simp only [Measure.ofVisits_apply, Measure.none_apply, List.map_map, Function.comp_def]
    at hbalance
  omega

/-! ## Texts -/

/-- What is done for each key of a text, and how often. -/
structure OncePerKey (r : Resolver σ) (fallback : Option String) (text : String) (context : Context)
    (visits : List Visit) (events : List Event) (out : String) : Prop where
  /-- The key of each token has one single resolution, on the last token of the key. -/
  settled : ∀ t ∈ r.delimiter.tokens text, ∃ x,
    (settlements events).filter (fun y => y.token.key == t.key) = [x] ∧
      IsLast r.delimiter text x.token
  /-- There are no others, and all are made in the one context. -/
  only : ∀ x ∈ settlements events, x.token ∈ r.delimiter.tokens text ∧ x.context = context
  /-- The calls of foreign code are those of the visits, and are made for the tokens that are
  resolved. -/
  called : foreignCalls events = visits.map Visit.call ∧
    ∀ v ∈ visits, ∃ x ∈ settlements events, x.token = v.token
  /-- For a key a custom resolver is called once at most, and so is a handler. -/
  once : ∀ key custom, visits.countP (isFor key custom) ≤ 1
  /-- All tokens of a key are rendered with its one answer. -/
  rendered : ∃ answers : Answers,
    (∀ x ∈ settlements events, answers.find? x.token.key = some x.answer) ∧
      out.toByteArray = weave (r.shown fallback answers text.toByteArray) text.toByteArray 0
        (r.delimiter.tokens text)

theorem filter_key_eq {trace : List Settled}
    (hkeys : (trace.map Settled.token).Pairwise fun t u => t.key ≠ u.key) {x : Settled}
    (hx : x ∈ trace) : trace.filter (fun y => y.token.key == x.token.key) = [x] := by
  induction trace with
  | nil => cases hx
  | cons y trace ih =>
      obtain ⟨hfirst, hrest⟩ := List.pairwise_cons.mp hkeys
      have hother : ∀ z ∈ trace, y.token.key ≠ z.token.key := fun z hz =>
        hfirst z.token (List.mem_map_of_mem hz)
      rcases List.mem_cons.mp hx with rfl | hx
      · have hnone : trace.filter (fun z => z.token.key == x.token.key) = [] := by
          simpa [List.filter_eq_nil_iff] using fun z hz => (hother z hz).symm
        simp [hnone]
      · rw [List.filter_cons_of_neg (by simpa using hother x hx), ih hrest hx]

theorem Yields.weaves {trace : List Settled} (h : r.Yields fallback text trace out)
    (hkeys : (trace.map Settled.token).Pairwise fun t u => t.key ≠ u.key) (s : State σ) :
    ∃ answers : Answers, (∀ x ∈ trace, answers.find? x.token.key = some x.answer) ∧
      out.toByteArray = weave (r.shown fallback answers text.toByteArray) text.toByteArray 0
        (r.delimiter.tokens text) := by
  obtain ⟨answers, hfind, hrender⟩ := h
  refine ⟨answers, fun x hx => (hfind _).trans (answerIn_eq_some hkeys hx), ?_⟩
  obtain ⟨out', hrender', hweave⟩ := r.render_eq_weave fallback answers text
  have hsame := (hrender s).symm.trans (hrender' s)
  cases hsame
  exact hweave

/-- Tasks for the tokens that stand for their keys do what is to be done once for each key. -/
theorem Resolved.oncePerKey (h : r.Resolved tokens fallback text context s visits events out s')
    (hperm : tokens.Perm (onePerKey (r.delimiter.tokens text).reverse)) :
    r.OncePerKey fallback text context visits events out := by
  have hkeys : tokens.Pairwise fun t u => t.key ≠ u.key :=
    (hperm.pairwise_iff fun {t u} (h : t.key ≠ u.key) => h.symm).mpr (onePerKey_pairwise _)
  have hsettled := h.tokens_perm
  have hpairwise := (hsettled.pairwise_iff fun {t u} (h : t.key ≠ u.key) => h.symm).mpr hkeys
  obtain ⟨tasks, hworks, -⟩ := h.works
  have hlast : ∀ x ∈ settlements events, IsLast r.delimiter text x.token := fun x hx =>
    isLast_of_mem (hperm.mem_iff.mp (hsettled.mem_iff.mp (List.mem_map_of_mem hx)))
  constructor
  case settled =>
    intro t ht
    obtain ⟨u, hu, hkey⟩ := exists_mem_onePerKey (List.mem_reverse.mpr ht)
    have hmem := hsettled.mem_iff.mpr (hperm.mem_iff.mpr hu)
    obtain ⟨x, hx, rfl⟩ := List.mem_map.mp hmem
    exact ⟨x, hkey ▸ filter_key_eq hpairwise hx, hlast x hx⟩
  case only =>
    exact fun x hx => ⟨(hlast x hx).mem, hworks.settlements_context x hx⟩
  case called =>
    refine ⟨hworks.foreignCalls_eq, fun v hv => ?_⟩
    have hmem : v.token ∈ tokens := by simpa [Function.comp_def] using hworks.visits_mem v hv
    exact List.mem_map.mp (hsettled.mem_iff.mpr hmem)
  case once => exact hworks.visits_once hkeys
  case rendered => exact h.yields.weaves hpairwise s

/-- However often a key occurs in a text, it is resolved once: by a pass with any fallback, from the
last token to the first, by tasks in any order, and by tasks that have any turns. -/
theorem resolved_once_per_key (hr : r.Calm) (hs : Customs.Direct s.customs) (text : String)
    (context : Context) :
    (∀ fallback, ∃ visits events out s',
      r.resolveWithFallback text context fallback s = ⟨.ok out, s', events⟩ ∧
      r.Resolved (onePerKey (r.delimiter.tokens text).reverse) fallback text context s visits events
        out s' ∧
      r.OncePerKey fallback text context visits events out ∧
      (settlements events).Pairwise fun x y => y.token.start < x.token.start) ∧
    (∀ schedule : Schedule, ∃ visits events out s',
      r.resolveInOrder schedule.order text context s = ⟨.ok out, s', events⟩ ∧
      r.Resolved (schedule.order (onePerKey (r.delimiter.tokens text).reverse)) r.fallback text
        context s visits events out s' ∧
      r.OncePerKey r.fallback text context visits events out) ∧
    ∀ turns, ∃ visits events out s',
      r.resolveInTurns turns text context s = ⟨.ok out, s', events⟩ ∧
      r.Resolved (onePerKey (r.delimiter.tokens text).reverse) r.fallback text context s visits
        events out s' ∧
      r.OncePerKey r.fallback text context visits events out := by
  refine ⟨fun fallback => ?_, fun schedule => ?_, fun turns => ?_⟩
  · obtain ⟨visits, events, out, s', hrun, hresolved, -, htokens⟩ :=
      resolveWithFallback_traced hr hs text context fallback
    refine ⟨visits, events, out, s', hrun, hresolved, hresolved.oncePerKey (.refl _), ?_⟩
    have hfalling := (tokens_reverse_pairwise r.delimiter text).sublist (onePerKey_sublist _)
    rw [← htokens] at hfalling
    exact List.pairwise_map.mp hfalling
  · obtain ⟨visits, events, out, s', hrun, hresolved⟩ :=
      resolveInOrder_resolved hr hs schedule text context
    exact ⟨visits, events, out, s', hrun, hresolved, hresolved.oncePerKey (schedule.perm _)⟩
  · obtain ⟨visits, events, out, s', hrun, hresolved⟩ :=
      resolveInTurns_resolved hr hs turns text context
    exact ⟨visits, events, out, s', hrun, hresolved, hresolved.oncePerKey (.refl _)⟩

end Resolver

/-- A registry with one handler that tells how often it has been called. -/
def numbering : Resolver Nat :=
  (Registry.single { expansion := "a", pattern := .any, run := fun _ host =>
    (.value (["once", "twice"].getD host "often"), host + 1) }).toResolver

theorem numbering_calm : numbering.Calm := by
  intro source hsource
  exact ⟨_, (Option.some.inj hsource).symm, Registry.single_calm _⟩

/-- Three tokens of one key, one of them in another case, and one token of another key. -/
theorem numbering_once :
    numbering.Calm ∧ Customs.Direct (State.initial none 0 : State Nat).customs ∧
    ∃ visits events out s',
      numbering.resolve "%a_b% %A_b% %a_c% %a_b%" .empty (.initial none 0) =
        ⟨.ok out, s', events⟩ ∧
      numbering.OncePerKey none "%a_b% %A_b% %a_c% %a_b%" .empty visits events out := by
  have hdirect : Customs.Direct (State.initial none 0 : State Nat).customs :=
    Customs.forall_empty
  obtain ⟨hpass, -, -⟩ := Resolver.resolved_once_per_key numbering_calm hdirect
    "%a_b% %A_b% %a_c% %a_b%" .empty
  obtain ⟨visits, events, out, s', hrun, -, honce, -⟩ := hpass none
  exact ⟨numbering_calm, hdirect, visits, events, out, s', hrun, honce⟩

/-- The handler is called for the last token of the text first, and for the middle one second. -/
example :
    (numbering.resolve "%a_b% %a_c% %a_b%" .empty (.initial none 0)).result.toOption =
      some "once twice once" := by
  decide +kernel

end Placeholder
