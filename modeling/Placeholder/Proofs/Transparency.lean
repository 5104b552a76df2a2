import Placeholder.Proofs.Calls
import Placeholder.Proofs.Steadiness

/-!
# The cache does not show

Two resolvers that differ in their caches alone give the same texts and the same answers, if
foreign code is steady and the source answers by keys: clients cannot tell whether an answer was
kept, unless they look for just that. It does not matter how the clock of the cache is moved, what
is dropped from it, how small it is, and in which order tasks run.
-/
namespace Placeholder

variable {σ : Type}

/-- The reply without a sign of whether an answer had been kept. -/
def Reply.plain : Reply → Reply
  | answer a => answer (Answer.ofOption a.text?)
  | text out => text out
  | flag b => flag b
  | done => done

/-- The same question, but for the order in which tasks run. -/
inductive Query.Twin : Query → Query → Prop
  | same (query : Query) : Twin query query
  | byTasks (first second : Schedule) (text : String) (context : Context) :
      Twin (.resolveByTasks first text context) (.resolveByTasks second text context)

/-- The same call, but for the order in which tasks run. -/
inductive Call.Twin : Call σ → Call σ → Prop
  | same (call : Call σ) : Twin call call
  | ask {first second : Query} : first.Twin second → Twin (.ask first) (.ask second)

/-- The custom resolver that comes into use, if one does, is steady. -/
def Call.Steady : Call σ → Prop
  | register _ custom => custom.Steady
  | _ => True

/-! ## Texts of answers -/

theorem answerIn_text_eq {trace : List Settled} {m : Token → Option String}
    (htext : ∀ x ∈ trace, x.answer.text? = m x.token)
    (hkeys : (trace.map Settled.token).Pairwise fun t u => t.key ≠ u.key) {t : Token}
    (ht : t ∈ trace.map Settled.token) : (answerIn trace t.key).bind Answer.text? = m t := by
  obtain ⟨x, hx, rfl⟩ := List.mem_map.mp ht
  rw [answerIn_eq_some hkeys hx]
  exact htext x hx

theorem answerIn_text_congr {trace trace' : List Settled} {m : Token → Option String}
    (htext : ∀ x ∈ trace, x.answer.text? = m x.token)
    (htext' : ∀ x ∈ trace', x.answer.text? = m x.token)
    (hperm : (trace.map Settled.token).Perm (trace'.map Settled.token))
    (hkeys : (trace.map Settled.token).Pairwise fun t u => t.key ≠ u.key) (key : String) :
    (answerIn trace key).bind Answer.text? = (answerIn trace' key).bind Answer.text? := by
  have hkeys' := (hperm.pairwise_iff fun {t u} (h : t.key ≠ u.key) => h.symm).mp hkeys
  by_cases h : ∃ t ∈ trace.map Settled.token, t.key = key
  · obtain ⟨t, ht, rfl⟩ := h
    rw [answerIn_text_eq htext hkeys ht, answerIn_text_eq htext' hkeys' (hperm.mem_iff.mp ht)]
  · have hnone : ∀ {some : List Settled}, (some.map Settled.token).Perm (trace.map Settled.token) →
        answerIn some key = none := by
      intro some hsome
      apply answerIn_eq_none
      intro x hx hkey
      exact h ⟨x.token, hsome.mem_iff.mp (List.mem_map_of_mem hx), hkey⟩
    rw [hnone (.refl _), hnone hperm.symm]

/-- A rendering shows nothing of the answers but their texts. -/
theorem Resolver.Yields.unique {r : Resolver σ} {fallback : Option String} {text : String}
    {trace trace' : List Settled} {out out' : String} (h : r.Yields fallback text trace out)
    (h' : r.Yields fallback text trace' out')
    (hsame : ∀ key, (answerIn trace key).bind Answer.text? =
      (answerIn trace' key).bind Answer.text?) (s : State σ) : out = out' := by
  obtain ⟨answers, hfind, hrender⟩ := h
  obtain ⟨answers', hfind', hrender'⟩ := h'
  have hreplacement : r.replacement fallback answers = r.replacement fallback answers' := by
    funext token
    simp only [replacement, hfind, hfind', hsame]
  have heq : r.render fallback answers (r.delimiter.tokens text).reverse text s =
      r.render fallback answers' (r.delimiter.tokens text).reverse text s := by
    unfold render
    rw [hreplacement]
  rw [hrender, hrender'] at heq
  cases heq
  rfl

/-! ## Pairs of runs -/

theorem Query.Twin.reply_eq {r : Resolver σ} {query query' : Query} (htwin : query.Twin query')
    {trace trace' : List Settled} {reply reply' : Reply} (h : query.Gives r trace reply)
    (h' : query'.Gives r trace' reply') (m : Token → Option String)
    (htext : ∀ x ∈ trace, x.answer.text? = m x.token)
    (htext' : ∀ x ∈ trace', x.answer.text? = m x.token)
    (hplain : ∀ x ∈ trace', x.answer = Answer.ofOption x.answer.text?) (s : State σ) :
    reply' = reply.plain := by
  have htexts : ∀ {text : String} {fallback : Option String} {out out' : String},
      (trace.map Settled.token).Perm (Resolver.onePerKey (r.delimiter.tokens text).reverse) →
      (trace'.map Settled.token).Perm (Resolver.onePerKey (r.delimiter.tokens text).reverse) →
      r.Yields fallback text trace out → r.Yields fallback text trace' out' → out' = out := by
    intro text fallback out out' hperm hperm' hout hout'
    have hkeys := (hperm.pairwise_iff fun {t u} (h : t.key ≠ u.key) => h.symm).mpr
      (Resolver.onePerKey_pairwise (r.delimiter.tokens text).reverse)
    have hsame := answerIn_text_congr htext htext' (hperm.trans hperm'.symm) hkeys
    exact (hout.unique hout' hsame s).symm
  have hanswers : ∀ {x y : Settled}, x ∈ trace → y ∈ trace' → x.token = y.token →
      Reply.answer y.answer = (Reply.answer x.answer).plain := by
    intro x y hx hy ht
    rw [hplain y hy, htext' y hy, ← ht, ← htext x hx]
    rfl
  cases htwin with
  | same =>
      cases h with
      | resolve htokens hout =>
          cases h' with
          | resolve htokens' hout' =>
              exact congrArg _ (htexts (htokens ▸ .refl _) (htokens' ▸ .refl _) hout hout')
      | withFallback htokens hout =>
          cases h' with
          | withFallback htokens' hout' =>
              exact congrArg _ (htexts (htokens ▸ .refl _) (htokens' ▸ .refl _) hout hout')
      | @byTasks schedule _ _ _ _ htokens hout =>
          cases h' with
          | byTasks htokens' hout' =>
              exact congrArg _
                (htexts (htokens ▸ schedule.perm _) (htokens' ▸ schedule.perm _) hout hout')
      | unread hnone =>
          cases h' with
          | unread => rfl
          | placeholder hsome => simp [hnone] at hsome
      | placeholder hsome =>
          cases h' with
          | unread hnone => simp [hnone] at hsome
          | placeholder hsome' =>
              apply hanswers List.mem_cons_self List.mem_cons_self
              exact Option.some.inj (hsome.symm.trans hsome')
      | token ht =>
          cases h' with
          | token ht' => exact hanswers List.mem_cons_self List.mem_cons_self (ht.trans ht'.symm)
  | byTasks first second =>
      cases h with
      | byTasks htokens hout =>
          cases h' with
          | byTasks htokens' hout' =>
              exact congrArg _
                (htexts (htokens ▸ first.perm _) (htokens' ▸ second.perm _) hout hout')

namespace Resolver

/-- The first state may have a cache and the second has none; for the rest they are in step. -/
structure Paired (r : Resolver σ) (s u : State σ) : Prop where
  customs : s.customs = u.customs
  steady : Customs.Steady s.customs
  warm : r.Warm s
  uncached : u.cache = none

variable {r : Resolver σ} {s u : State σ}

/-- Twin questions have the same reply, but for whether an answer had been kept. -/
theorem Paired.query (h : r.Paired s u) (hreturns : r.Returns) (hr : r.Steady)
    (hkeys : r.KeyDetermined) {query query' : Query} (htwin : query.Twin query') :
    ∃ reply, (query.perform r s).result = .ok reply ∧
      (query'.perform r u).result = .ok reply.plain ∧
      r.Paired (query.perform r s).state (query'.perform r u).state := by
  have hdirect := h.steady.direct
  obtain ⟨reply, s', _, trace, hrun, -, htrace, hgives⟩ := query.perform_traces hreturns hdirect
  obtain ⟨reply', u', _, trace', hrun', -, htrace', hgives'⟩ :=
    query'.perform_traces hreturns (h.customs ▸ hdirect)
  have hcontext : query'.context = query.context := by
    cases htwin with
    | same => rfl
    | byTasks => rfl
  obtain ⟨hwarm, htext⟩ := htrace.warm hr hkeys h.steady hgives.parsed h.warm
  have hcold : r.Warm u := by
    intro cache hc
    simp [h.uncached] at hc
  obtain ⟨-, htext'⟩ := htrace'.warm hr hkeys (h.customs ▸ h.steady) hgives'.parsed hcold
  obtain ⟨hnone, hplain⟩ := htrace'.uncached h.uncached
  have hmeaning : ∀ x ∈ trace', x.answer.text? = r.meaning s x.token query.context := by
    intro x hx
    rw [htext' x hx, hcontext, meaning_congr hr h.customs h.steady]
  rw [hrun, hrun']
  refine ⟨reply, rfl, ?_, ?_, ?_, hwarm, hnone⟩
  · exact congrArg _ (htwin.reply_eq hgives hgives' (fun t => r.meaning s t query.context) htext
      hmeaning hplain s)
  · rw [htrace.customs_eq, htrace'.customs_eq, h.customs]
  · rw [htrace.customs_eq]
    exact h.steady

theorem Paired.onCache (h : r.Paired s u) (f : Cache → Cache)
    (hf : ∀ cache key entry, (f cache).entries.find? key = some entry →
      cache.entries.find? key = some entry) : r.Paired (s.onCache f) (u.onCache f) where
  customs := h.customs
  steady := h.steady
  warm := by
    intro cache hc
    obtain ⟨old, hold, rfl⟩ := Option.map_eq_some_iff.mp hc
    exact (h.warm old hold).mono (hf old)
  uncached := by simp [State.onCache, h.uncached]

/-- Twin calls have the same reply, but for whether an answer had been kept, and leave the two
resolvers in step. -/
theorem Paired.call (h : r.Paired s u) (hreturns : r.Returns) (hr : r.Steady)
    (hkeys : r.KeyDetermined) {call call' : Call σ} (htwin : call.Twin call')
    (hcall : call.Steady) :
    ∃ reply, (call.perform r s).result = .ok reply ∧
      (call'.perform r u).result = .ok reply.plain ∧
      r.Paired (call.perform r s).state (call'.perform r u).state := by
  cases htwin with
  | ask hquery => exact h.query hreturns hr hkeys hquery
  | same =>
      cases call with
      | ask query => exact h.query hreturns hr hkeys (.same query)
      | register expansion custom =>
          have hcustoms : (u.customs.register expansion custom) =
              s.customs.register expansion custom := by rw [h.customs]
          refine ⟨.flag (s.customs.register expansion custom).1, rfl, ?_, ?_⟩
          · rw [← hcustoms]
            rfl
          · exact ⟨(congrArg Prod.snd hcustoms).symm,
              Customs.forall_register h.steady hcall expansion, h.warm, h.uncached⟩
      | unregister expansion =>
          have hcustoms : (u.customs.unregister expansion) =
              s.customs.unregister expansion := by rw [h.customs]
          refine ⟨.flag (s.customs.unregister expansion).1, rfl, ?_, ?_⟩
          · rw [← hcustoms]
            rfl
          · exact ⟨(congrArg Prod.snd hcustoms).symm,
              Customs.forall_unregister h.steady expansion, h.warm, h.uncached⟩
      | invalidate key =>
          refine ⟨.done, rfl, rfl, h.onCache _ ?_⟩
          intro cache k entry hfind
          rw [Cache.find?_invalidate] at hfind
          split_ifs at hfind
          exact hfind
      | invalidateSubject whom =>
          refine ⟨.done, rfl, rfl, h.onCache _ ?_⟩
          intro cache k entry hfind
          rw [Cache.find?_invalidateSubject] at hfind
          split_ifs at hfind
          exact hfind
      | clear =>
          refine ⟨.done, rfl, rfl, h.onCache _ ?_⟩
          intro cache k entry hfind
          cases hfind
      | advance span => exact ⟨.done, rfl, rfl, h.onCache _ fun _ _ _ hfind => hfind⟩
      | setClock reading => exact ⟨.done, rfl, rfl, h.onCache _ fun _ _ _ hfind => hfind⟩

theorem Paired.started (r : Resolver σ) (capacity : UInt64) (clock : Clock) (host host' : σ) :
    r.Paired (.withEmptyCache capacity clock host) (.initial none host') where
  customs := rfl
  steady := Customs.forall_empty
  warm cache h := by
    cases h
    exact .empty r capacity clock
  uncached := rfl

theorem Paired.run (hreturns : r.Returns) (hr : r.Steady) (hkeys : r.KeyDetermined)
    {calls calls' : List (Call σ)} (htwins : List.Forall₂ Call.Twin calls calls')
    (hcalls : ∀ call ∈ calls, call.Steady) (h : r.Paired s u) :
    ∃ replies : List Reply, (r.run calls s).replies = replies.map .ok ∧
      (r.run calls' u).replies = replies.map fun reply => .ok reply.plain := by
  induction htwins generalizing s u with
  | nil => exact ⟨[], rfl, rfl⟩
  | cons htwin _ ih =>
      obtain ⟨hcall, hrest⟩ := List.forall_mem_cons.mp hcalls
      obtain ⟨reply, hfirst, hfirst', hnext⟩ := h.call hreturns hr hkeys htwin hcall
      obtain ⟨replies, hreplies, hreplies'⟩ := ih hrest hnext
      refine ⟨reply :: replies, ?_, ?_⟩
      · simp only [run, hfirst, hreplies, List.map_cons]
      · simp only [run, hfirst', hreplies', List.map_cons]

/-- The cache is transparent. Whatever is asked, registered, dropped and moved, every call is
replied to with and without a cache, and the replies differ at most in whether an answer is said to
have been kept. -/
theorem cache_transparent {g : Registry σ} (hsource : r.source = some g.toSource) (hg : g.Calm)
    (hsteady : g.Steady) (hkeys : g.toSource.KeyDetermined) (capacity : UInt64) (clock : Clock)
    (host host' : σ) {calls calls' : List (Call σ)} (hcalls : ∀ call ∈ calls, call.Steady)
    (htwins : List.Forall₂ Call.Twin calls calls') :
    ∃ replies : List Reply,
      (r.run calls (.withEmptyCache capacity clock host)).replies = replies.map .ok ∧
      (r.run calls' (.initial none host')).replies = replies.map fun reply => .ok reply.plain := by
  have hreturns : r.Returns := forall_source hsource hg.returns
  have hr : r.Steady := forall_source hsource (hsteady.source hg)
  exact Paired.run hreturns hr (forall_source hsource hkeys) htwins hcalls
    (.started r capacity clock host host')

end Resolver

def Schedule.started : Schedule := ⟨id, .refl⟩

def Schedule.reversed : Schedule := ⟨List.reverse, List.reverse_perm⟩

/-- Tasks in two orders, with and without an answer in the cache. -/
theorem constant_transparent :
    ∃ replies : List Reply,
      ((Registry.single (.constant "a" .second "v")).toResolver.run
        [.ask (.resolvePlaceholder "a_b" .empty),
          .ask (.resolveByTasks .started "%a_b%%a_c%" .empty)]
        (.withEmptyCache 1 ⟨0⟩ ())).replies = replies.map .ok ∧
      ((Registry.single (.constant "a" .second "v")).toResolver.run
        [.ask (.resolvePlaceholder "a_b" .empty),
          .ask (.resolveByTasks .reversed "%a_b%%a_c%" .empty)]
        (.initial none ())).replies = replies.map fun reply => .ok reply.plain := by
  refine Resolver.cache_transparent rfl (Registry.single_calm _)
    (Registry.single_steady (Handler.constant_steady _ _ _))
    (Registry.single_constant_keyDetermined _ _ _) 1 ⟨0⟩ () () ?_ ?_
  · simp [Call.Steady]
  · exact .cons (.same _) (.cons (.ask (.byTasks _ _ _ _)) .nil)

end Placeholder
