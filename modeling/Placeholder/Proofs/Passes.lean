import Placeholder.Proofs.Rendering
import Placeholder.Proofs.Settling
import Placeholder.Resolver.Tasks
import Mathlib.Data.List.Perm.Basic

/-!
# What a pass does

A pass over a text is a sequence of single resolutions in one context and then a rendering. The
sequence has exactly one resolution for each key of the text, on the last token of the key. Tasks do
the same resolutions in an order of their own. Either way the pass comes back, tells of exactly
these resolutions, and renders the text with their answers.
-/
namespace Placeholder

variable {σ : Type}

/-- The first answer for a key among some resolutions. -/
def answerIn (trace : List Settled) (key : String) : Option Answer :=
  (trace.find? fun x => decide (x.token.key = key)).map Settled.answer

theorem answerIn_cons (x : Settled) (trace : List Settled) (key : String) :
    answerIn (x :: trace) key =
      if x.token.key = key then some x.answer else answerIn trace key := by
  unfold answerIn
  rw [List.find?_cons]
  by_cases h : x.token.key = key <;> simp [h]

theorem answerIn_eq_none {trace : List Settled} {key : String}
    (h : ∀ x ∈ trace, x.token.key ≠ key) : answerIn trace key = none := by
  unfold answerIn
  rw [List.find?_eq_none.mpr, Option.map_none]
  intro x hx
  simpa using h x hx

theorem answerIn_eq_some {trace : List Settled}
    (hkeys : (trace.map Settled.token).Pairwise fun t u => t.key ≠ u.key) {x : Settled}
    (hx : x ∈ trace) : answerIn trace x.token.key = some x.answer := by
  induction trace with
  | nil => cases hx
  | cons y trace ih =>
      obtain ⟨hfirst, hrest⟩ := List.pairwise_cons.mp hkeys
      rw [answerIn_cons]
      rcases List.mem_cons.mp hx with rfl | hx
      · rw [if_pos rfl]
      · rw [if_neg (hfirst x.token (List.mem_map_of_mem hx)), ih hrest hx]

namespace Resolver

/-- Single resolutions in one context, each in the state that the one before it has left. -/
inductive Trace (r : Resolver σ) (context : Context) : State σ → List Settled → State σ → Prop
  | nil (s : State σ) : Trace r context s [] s
  | cons {s u s' : State σ} {token : Token} {events : List Event} {origin : Origin}
      {answer : Answer} {trace : List Settled} :
      r.Settles token context s events origin answer u → Trace r context u trace s' →
      Trace r context s (⟨token, context, origin, answer⟩ :: trace) s'

theorem Trace.customs_eq {r : Resolver σ} {context : Context} {s s' : State σ}
    {trace : List Settled} (h : r.Trace context s trace s') : s'.customs = s.customs := by
  induction h with
  | nil => rfl
  | cons hsettles _ ih => rw [ih, hsettles.customs_eq]

theorem Trace.singleton {r : Resolver σ} {token : Token} {context : Context} {s s' : State σ}
    {events : List Event} {origin : Origin} {answer : Answer}
    (h : r.Settles token context s events origin answer s') :
    r.Trace context s [⟨token, context, origin, answer⟩] s' :=
  .cons h (.nil s')

theorem onePerKey_subset {tokens : List Token} : onePerKey tokens ⊆ tokens := by
  induction tokens with
  | nil => exact List.Subset.refl _
  | cons t rest ih =>
      intro u hu
      rcases List.mem_cons.mp hu with rfl | hu
      · exact List.mem_cons_self
      · exact List.mem_cons_of_mem _ (ih (List.mem_of_mem_filter hu))

theorem onePerKey_pairwise (tokens : List Token) :
    (onePerKey tokens).Pairwise fun t u => t.key ≠ u.key := by
  induction tokens with
  | nil => exact .nil
  | cons t rest ih =>
      refine .cons ?_ (ih.filter _)
      intro u hu
      have hne : u.key ≠ t.key := by simpa using (List.mem_filter.mp hu).2
      exact hne.symm

variable {r : Resolver σ}

/-- The tokens that stand for those keys that have no answer yet. -/
def unanswered (answers : Answers) (tokens : List Token) : List Token :=
  (onePerKey tokens).filter fun t => (answers.find? t.key).isNone

theorem unanswered_empty (tokens : List Token) : unanswered .empty tokens = onePerKey tokens := by
  simp [unanswered]

theorem unanswered_cons_of_contains {answers : Answers} {t : Token} (tokens : List Token)
    (h : answers.contains t.key = true) :
    unanswered answers (t :: tokens) = unanswered answers tokens := by
  have hsome : (answers.find? t.key).isNone = false := by
    simpa [Table.contains, Option.isNone_iff_eq_none, Option.isSome_iff_ne_none] using h
  unfold unanswered
  rw [onePerKey, List.filter_cons_of_neg (by simp [hsome]), List.filter_filter]
  apply List.filter_congr
  intro u _
  by_cases hu : u.key = t.key
  · simp [hu, hsome]
  · simp [hu]

theorem unanswered_cons {answers : Answers} {t : Token} (tokens : List Token) (answer : Answer)
    (h : answers.contains t.key = false) :
    unanswered answers (t :: tokens) = t :: unanswered (answers.insert t.key answer) tokens := by
  have hnone : answers.find? t.key = none := by simpa [Table.contains] using h
  unfold unanswered
  rw [onePerKey, List.filter_cons_of_pos (by simp [hnone]), List.filter_filter]
  congr 1
  apply List.filter_congr
  intro v _
  rw [Table.find?_insert]
  by_cases hv : v.key = t.key <;> simp [hv]

/-- Settling in turn is running tasks for the keys that have no answer yet: no single resolution
breaks down, so there is nothing to catch. -/
theorem settleEach_eq_runTasks (hr : r.Returns) (inner : Inner σ) (context : Context)
    (tokens : List Token) (answers : Answers) {s : State σ} (hs : Customs.Direct s.customs) :
    r.settleEach inner context tokens answers s =
      r.runTasks inner context (unanswered answers tokens) answers s := by
  induction tokens generalizing answers s with
  | nil => rfl
  | cons t rest ih =>
      rw [settleEach]
      cases hk : answers.contains t.key with
      | true => rw [if_pos rfl, ih answers hs, unanswered_cons_of_contains rest hk]
      | false =>
          obtain ⟨events, origin, answer, u, hsettle, -, hsettles⟩ :=
            settle_settles hr hs inner t context
          rw [unanswered_cons rest answer hk]
          simp only [runTasks, Bool.false_eq_true, if_false, Exec.bind_apply, Exec.attempt, hsettle,
            ih _ (hsettles.customs_eq ▸ hs)]

/-- Tasks with different keys make one resolution each, in the order in which they run. -/
theorem runTasks_traces (hr : r.Returns) (inner : Inner σ) (context : Context)
    (tokens : List Token) : ∀ (answers : Answers) (s : State σ), Customs.Direct s.customs →
      (tokens.Pairwise fun t u => t.key ≠ u.key) →
      ∃ answers' s' events trace,
        r.runTasks inner context tokens answers s = ⟨.ok answers', s', events⟩ ∧
        settlements events = trace ∧ r.Trace context s trace s' ∧
        trace.map Settled.token = tokens ∧
        ∀ key, answers'.find? key = (answerIn trace key).or (answers.find? key) := by
  induction tokens with
  | nil =>
      intro answers s _ _
      exact ⟨answers, s, [], [], rfl, rfl, .nil s, rfl, fun key => by simp [answerIn]⟩
  | cons t rest ih =>
      intro answers s hs hkeys
      obtain ⟨hfirst, hrest⟩ := List.pairwise_cons.mp hkeys
      obtain ⟨head, origin, answer, u, hsettle, hquiet, hsettles⟩ :=
        settle_settles hr hs inner t context
      obtain ⟨answers', s', events, trace, hrun, he, htrace, htokens, hfind⟩ :=
        ih (answers.insert t.key answer) u (hsettles.customs_eq ▸ hs) hrest
      refine ⟨answers', s', (head ++ [.settled t context origin answer]) ++ events,
        ⟨t, context, origin, answer⟩ :: trace, ?_, ?_, .cons hsettles htrace, ?_, ?_⟩
      · simp only [runTasks, Exec.bind_apply, Exec.attempt, hsettle, hrun]
        rfl
      · rw [settlements_append, settlements_append, hquiet, he]
        rfl
      · rw [List.map_cons, htokens]
      · intro key
        rw [hfind, Table.find?_insert, answerIn_cons]
        by_cases hkey : key = t.key
        · subst hkey
          have hlater : answerIn trace t.key = none := by
            apply answerIn_eq_none
            intro x hx
            have hm : x.token ∈ rest := htokens ▸ List.mem_map_of_mem hx
            exact (hfirst x.token hm).symm
          simp [hlater]
        · simp [hkey, Ne.symm hkey]

/-- The text that a rendering makes of the answers of some resolutions. -/
def Yields (r : Resolver σ) (fallback : Option String) (text : String) (trace : List Settled)
    (out : String) : Prop :=
  ∃ answers : Answers, (∀ key, answers.find? key = answerIn trace key) ∧
    ∀ s : State σ,
      r.render fallback answers (r.delimiter.tokens text).reverse text s = ⟨.ok out, s, []⟩

theorem exists_yields (r : Resolver σ) (fallback : Option String) (text : String)
    (answers : Answers) (trace : List Settled)
    (h : ∀ key, answers.find? key = answerIn trace key) :
    ∃ out, r.Yields fallback text trace out ∧ ∀ s : State σ,
      r.render fallback answers (r.delimiter.tokens text).reverse text s = ⟨.ok out, s, []⟩ := by
  obtain ⟨out, hrender, -⟩ := r.render_eq_weave fallback answers text
  exact ⟨out, ⟨answers, h, hrender⟩, hrender⟩

theorem runTasks_yields (hr : r.Returns) {s : State σ} (hs : Customs.Direct s.customs)
    {tokens : List Token} (hkeys : tokens.Pairwise fun t u => t.key ≠ u.key) (inner : Inner σ)
    (fallback : Option String) (text : String) (context : Context) :
    ∃ out s' events trace,
      (do
        let answers ← r.runTasks inner context tokens .empty
        r.render fallback answers (r.delimiter.tokens text).reverse text) s =
          ⟨.ok out, s', events⟩ ∧
      settlements events = trace ∧ r.Trace context s trace s' ∧
      trace.map Settled.token = tokens ∧ r.Yields fallback text trace out := by
  obtain ⟨answers, s', events, trace, hrun, he, htrace, htokens, hfind⟩ :=
    runTasks_traces hr inner context tokens .empty s hs hkeys
  obtain ⟨out, hyields, hrender⟩ :=
    r.exists_yields fallback text answers trace (by simpa using hfind)
  refine ⟨out, s', events, trace, ?_, he, htrace, htokens, hyields⟩
  simp only [Exec.bind_apply, hrun, hrender]
  simp [Report.after]

theorem pass_eq_runTasks (hr : r.Returns) {s : State σ} (hs : Customs.Direct s.customs)
    (inner : Inner σ) (fallback : Option String) (text : String) (context : Context) :
    r.pass inner fallback text context s = (do
      let answers ← r.runTasks inner context (onePerKey (r.delimiter.tokens text).reverse) .empty
      r.render fallback answers (r.delimiter.tokens text).reverse text) s := by
  rw [pass_eq, ← unanswered_empty]
  simp only [Exec.bind_apply, settleEach_eq_runTasks hr inner context _ _ hs]

/-- A pass comes back. It makes one resolution for each key of the text, on the last token of the
key and from the last such token to the first, and renders the text with their answers. -/
theorem pass_traces (hr : r.Returns) {s : State σ} (hs : Customs.Direct s.customs)
    (inner : Inner σ) (fallback : Option String) (text : String) (context : Context) :
    ∃ out s' events trace,
      r.pass inner fallback text context s = ⟨.ok out, s', events⟩ ∧
      settlements events = trace ∧ r.Trace context s trace s' ∧
      trace.map Settled.token = onePerKey (r.delimiter.tokens text).reverse ∧
      r.Yields fallback text trace out := by
  rw [pass_eq_runTasks hr hs]
  exact runTasks_yields hr hs (onePerKey_pairwise _) inner fallback text context

theorem order_pairwise {order : List Token → List Token}
    (horder : ∀ tokens, (order tokens).Perm tokens) (tokens : List Token) :
    (order (onePerKey tokens)).Pairwise fun t u => t.key ≠ u.key :=
  ((horder _).pairwise_iff fun {t u} (h : t.key ≠ u.key) => h.symm).mpr (onePerKey_pairwise tokens)

theorem resolveInOrder_eq {order : List Token → List Token}
    (horder : ∀ tokens, (order tokens).Perm tokens) (r : Resolver σ) (text : String)
    (context : Context) :
    r.resolveInOrder order text context = (do
      let answers ← r.runTasks r.inner context
        (order (onePerKey (r.delimiter.tokens text).reverse)) .empty
      r.render r.fallback answers (r.delimiter.tokens text).reverse text) := by
  funext s
  unfold resolveInOrder
  cases h : r.tokens? text with
  | none =>
      have hnil : order [] = [] := List.perm_nil.mp (horder [])
      rw [tokens_eq_nil_of_tokens? h]
      simp [hnil, onePerKey, runTasks, render, splice, Exec.bind_apply]
  | some tokens => rw [tokens_eq_of_tokens? h]

/-- Tasks come back, too. They make the resolutions of a pass in the order in which they run. -/
theorem resolveInOrder_traces (hr : r.Returns) {s : State σ} (hs : Customs.Direct s.customs)
    {order : List Token → List Token} (horder : ∀ tokens, (order tokens).Perm tokens)
    (text : String) (context : Context) :
    ∃ out s' events trace,
      r.resolveInOrder order text context s = ⟨.ok out, s', events⟩ ∧
      settlements events = trace ∧ r.Trace context s trace s' ∧
      trace.map Settled.token = order (onePerKey (r.delimiter.tokens text).reverse) ∧
      r.Yields r.fallback text trace out := by
  rw [resolveInOrder_eq horder]
  exact runTasks_yields hr hs (order_pairwise horder _) r.inner r.fallback text context

end Resolver
end Placeholder
