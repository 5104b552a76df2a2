import Placeholder.Proofs.Locality
import Placeholder.Proofs.Transparency
import Placeholder.Resolver.Interleaving

/-!
# Tasks do what a pass does

The tasks of a text have different keys, so they do not meet in the cache. If foreign code is
steady, each of them comes to what the state says in which the tasks were started, whatever turns
they have had, and leaves what this state says. So do the single resolutions of a pass and of tasks
that run one after another. The texts are therefore the same, and so is what the cache holds in the
end, if it has places for all of it.
-/
namespace Placeholder

variable {σ : Type}

theorem Key.word_ofToken (token : Token) (context : Context) :
    (ofToken token context).word = token.key := by
  unfold ofToken
  split
  · rfl
  · split <;> rfl

theorem Key.ofToken_ne {t u : Token} (h : t.key ≠ u.key) (context : Context) :
    ofToken t context ≠ ofToken u context := by
  intro hsame
  apply h
  rw [← word_ofToken t context, hsame, word_ofToken]

namespace Resolver

/-- What single resolutions of different keys come to, by the state before all of them. -/
def verdicts (r : Resolver σ) (s : State σ) (context : Context) (tokens : List Token) :
    List Settled :=
  tokens.map fun t =>
    ⟨t, context, (r.verdict s t context).origin, (r.verdict s t context).answer⟩

@[simp] theorem verdicts_nil (r : Resolver σ) (s : State σ) (context : Context) :
    r.verdicts s context [] = [] := rfl

@[simp] theorem verdicts_cons (r : Resolver σ) (s : State σ) (context : Context) (token : Token)
    (tokens : List Token) :
    r.verdicts s context (token :: tokens) =
      ⟨token, context, (r.verdict s token context).origin, (r.verdict s token context).answer⟩ ::
        r.verdicts s context tokens := rfl

/-- All keys in use and all under which some tokens leave something are in a set, and there are
places for the whole set. -/
structure Covers (r : Resolver σ) (all : Finset Key) (context : Context) (tokens : List Token)
    (s : State σ) : Prop where
  keys : s.keys ⊆ all
  leaves : ∀ t ∈ tokens, (r.leaves s t context).isSome = true → Key.ofToken t context ∈ all
  places : s.places = 0 ∨ all.card ≤ s.places

/-- The cache has places for all that it holds and for all that some tokens leave in it. -/
def Fits (r : Resolver σ) (context : Context) (tokens : List Token) (s : State σ) : Prop :=
  ∃ all : Finset Key, r.Covers all context tokens s

/-- What is left of a state in which each of some tokens was settled. -/
structure Leads (r : Resolver σ) (context : Context) (tokens : List Token)
    (s s' : State σ) : Prop where
  agree : s.Agree (fun key => ∀ t ∈ tokens, key ≠ Key.ofToken t context) s'
  entry : r.Fits context tokens s → ∀ t ∈ tokens,
    s'.slot? (Key.ofToken t context) = r.leaves s t context

variable {r : Resolver σ} {context : Context} {token : Token} {tokens : List Token}
  {s s' u u' : State σ} {all : Finset Key}

/-- The order of the tokens does not show in what is left. -/
theorem Leads.slot?_eq {tokens' : List Token} (h : r.Leads context tokens s u)
    (h' : r.Leads context tokens' s u') (hperm : tokens'.Perm tokens)
    (hfits : r.Fits context tokens s) (key : Key) : u'.slot? key = u.slot? key := by
  obtain ⟨all, hcovers⟩ := hfits
  have hcovers' : r.Covers all context tokens' s :=
    ⟨hcovers.keys, fun t ht => hcovers.leaves t (hperm.mem_iff.mp ht), hcovers.places⟩
  by_cases hkey : ∃ t ∈ tokens, key = Key.ofToken t context
  · obtain ⟨t, ht, rfl⟩ := hkey
    rw [h.entry ⟨all, hcovers⟩ t ht, h'.entry ⟨all, hcovers'⟩ t (hperm.mem_iff.mpr ht)]
  · have hnone : ∀ t ∈ tokens, key ≠ Key.ofToken t context :=
      fun t ht heq => hkey ⟨t, ht, heq⟩
    rw [h.agree.entry key hnone,
      h'.agree.entry key fun t ht => hnone t (hperm.mem_iff.mp ht)]

theorem Covers.hasRoom (h : r.Covers all context tokens s) (ht : token ∈ tokens)
    (hsub : u.keys ⊆ all) (hplaces : u.places = s.places)
    (horigin : (r.verdict s token context).origin = .registry)
    (httl : (r.ttl token).isNone = false) : u.HasRoom (Key.ofToken token context) := by
  by_cases hnone : s.places = 0
  · exact .inl (hplaces.trans hnone)
  · have hmem := h.leaves token ht (leaves_isSome horigin httl hnone)
    exact State.hasRoom_of_subset hmem hsub (hplaces ▸ h.places.resolve_left hnone)

theorem Covers.tail {events : List Event} {origin : Origin} {answer : Answer}
    (h : r.Covers all context (token :: tokens) s)
    (hsettles : r.Settles token context s events origin answer u) (hr : r.Steady)
    (hcustoms : Customs.Steady s.customs) (hkeys : ∀ t ∈ tokens, token.key ≠ t.key) :
    r.Covers all context tokens u := by
  have htouches := hsettles.touches
  refine ⟨?_, ?_, htouches.places ▸ h.places⟩
  · intro k hk
    by_cases hkey : k = Key.ofToken token context
    · subst hkey
      apply h.leaves token List.mem_cons_self
      rw [State.mem_keys_iff, hsettles.slot?_eq hr] at hk
      · exact hk
      · intro ho ht
        exact h.hasRoom List.mem_cons_self h.keys rfl ((hsettles.verdict_eq hr).1 ▸ ho) ht
    · exact h.keys ((htouches.mem_keys_iff hkey).mp hk)
  · intro t ht hleaves
    apply h.leaves t (List.mem_cons_of_mem _ ht)
    rwa [leaves_congr htouches hr hcustoms (Key.ofToken_ne (hkeys t ht) context).symm] at hleaves

/-- Single resolutions of different keys come to what the state before all of them says, and leave
what it says. -/
theorem Trace.leads {trace : List Settled} (h : r.Trace context s trace s') (hr : r.Steady)
    (hcustoms : Customs.Steady s.customs)
    (hkeys : (trace.map Settled.token).Pairwise fun t u => t.key ≠ u.key) :
    trace = r.verdicts s context (trace.map Settled.token) ∧
      r.Leads context (trace.map Settled.token) s s' := by
  induction h with
  | nil s => exact ⟨rfl, .refl _ s, by simp⟩
  | @cons s u s' token events origin answer trace hsettles _ ih =>
      obtain ⟨hfirst, hrest⟩ := List.pairwise_cons.mp hkeys
      have htouches := hsettles.touches
      obtain ⟨hverdicts, hleads⟩ := ih (htouches.customs ▸ hcustoms) hrest
      have hother : ∀ t ∈ trace.map Settled.token,
          Key.ofToken t context ≠ Key.ofToken token context :=
        fun t ht => (Key.ofToken_ne (hfirst t ht) context).symm
      obtain ⟨horigin, hanswer⟩ := hsettles.verdict_eq hr
      refine ⟨?_, ?_, ?_⟩
      · have hsame : r.verdicts u context (trace.map Settled.token) =
            r.verdicts s context (trace.map Settled.token) := by
          apply List.map_congr_left
          intro t ht
          rw [verdict_congr htouches hr hcustoms (hother t ht)]
        rw [List.map_cons, verdicts_cons, ← hsame, ← hverdicts, ← horigin, ← hanswer]
      · have hfirst' : s.Agree (fun key => ∀ t ∈ token :: trace.map Settled.token,
            key ≠ Key.ofToken t context) u :=
          htouches.mono fun key hkey => hkey token List.mem_cons_self
        exact hfirst'.trans
          (hleads.agree.mono fun key hkey t ht => hkey t (List.mem_cons_of_mem _ ht))
      · intro hfits t ht
        obtain ⟨all, hcovers⟩ := hfits
        rcases List.mem_cons.mp ht with rfl | ht
        · rw [hleads.agree.entry _ fun t ht => (hother t ht).symm]
          apply hsettles.slot?_eq hr
          intro ho htt
          exact hcovers.hasRoom List.mem_cons_self hcovers.keys rfl (horigin ▸ ho) htt
        · rw [hleads.entry ⟨all, hcovers.tail hsettles hr hcustoms hfirst⟩ t ht,
            leaves_congr htouches hr hcustoms (hother t ht)]

end Resolver

/-! ## Turns -/

instance {S : Type} : LawfulMonad (Exec S) := by
  apply LawfulMonad.mk' (Exec S)
  · intro α x
    funext s
    have hmap : (id <$> x) s = (x >>= pure) s := rfl
    rw [hmap, Exec.bind_apply]
    rcases x s with ⟨_ | a, s', events⟩
    · rfl
    · simp [Report.after]
  · intro α β a f
    rfl
  · intro α β γ x f g
    funext s
    simp only [Exec.bind_apply]
    rcases x s with ⟨_ | a, s', events⟩
    · rfl
    · rcases hf : f a s' with ⟨_ | b, t, more⟩
      · simp [Report.after, hf]
      · simp [Report.after, hf]

namespace Stage

/-- A turn is the first part of what a task still has to do. -/
theorem advance_complete (inner : Inner σ) (r : Resolver σ) (token : Token) (context : Context)
    (stage : Stage) :
    (do (← stage.advance inner r token context).complete inner r token context) =
      stage.complete inner r token context := by
  cases stage with
  | waiting =>
      simp only [advance, complete, Resolver.settle]
      split
      · simp
      · simp only [bind_assoc]
        congr
        funext value
        cases value with
        | some text => simp
        | none =>
            dsimp only
            split <;> simp
  | atCache =>
      simp only [advance, complete, Resolver.lookup, bind_assoc]
      congr
      funext s
      split
      · simp
      · simp only [bind_assoc]
        congr
        funext found
        cases found <;> simp
  | atSource =>
      simp only [advance, complete, Resolver.produce]
      cases r.source with
      | none => simp
      | some source =>
          simp only [bind_assoc]
          congr
          funext answer
          cases answer <;> simp
  | made | ended | lost => simp [advance, complete]

/-- The number of turns that a task still needs at most. -/
def turnsLeft : Stage → Nat
  | waiting => 4
  | atCache => 3
  | atSource => 2
  | made _ _ => 1
  | ended _ | lost => 0

/-- What a task has found out so far is what the state says in which it was started, and under its
key the cache holds what it should by now. -/
inductive Coherent (r : Resolver σ) (context : Context) (token : Token) (fits : Prop)
    (start s : State σ) : Stage → Prop
  | waiting :
      s.slot? (Key.ofToken token context) = start.slot? (Key.ofToken token context) →
      Coherent r context token fits start s waiting
  | atCache : r.Reaches token context start →
      s.slot? (Key.ofToken token context) = start.slot? (Key.ofToken token context) →
      Coherent r context token fits start s atCache
  | atSource : r.Reaches token context start →
      start.kept? (Key.ofToken token context) = none →
      s.slot? (Key.ofToken token context) = none →
      Coherent r context token fits start s atSource
  | made {text : String} : r.verdict start token context = .made text →
      s.slot? (Key.ofToken token context) = none →
      Coherent r context token fits start s (made text (r.ttl token))
  | ended {answer : Answer} : answer = (r.verdict start token context).answer →
      (fits → s.slot? (Key.ofToken token context) = r.leaves start token context) →
      Coherent r context token fits start s (ended answer)

/-- What a turn does to a task that is coherent: it brings the task nearer to its end, concerns its
key alone, and keeps a sound cache sound. -/
structure Turn (r : Resolver σ) (context : Context) (token : Token) (fits : Prop)
    (start s : State σ) (stage next : Stage) (s' : State σ) : Prop where
  coherent : Coherent r context token fits start s' next
  touches : State.Touches (Key.ofToken token context) s s'
  nearer : next.turnsLeft ≤ stage.turnsLeft - 1
  warm : r.KeyDetermined → token.Parsed → r.Warm s → r.Warm s'

variable {r : Resolver σ} {context : Context} {token : Token} {fits : Prop}
  {start s s' : State σ} {stage : Stage} {text : String}

theorem Coherent.congr (h : Coherent r context token fits start s stage)
    (hentry : s'.slot? (Key.ofToken token context) = s.slot? (Key.ofToken token context)) :
    Coherent r context token fits start s' stage := by
  cases h with
  | waiting hold => exact .waiting (hentry.trans hold)
  | atCache hreach hold => exact .atCache hreach (hentry.trans hold)
  | atSource hreach hkept hnone => exact .atSource hreach hkept (hentry.trans hnone)
  | made hverdict hnone => exact .made hverdict (hentry.trans hnone)
  | ended hanswer hleaves => exact .ended hanswer fun hfits => hentry.trans (hleaves hfits)

/-- A task that ends before the source is asked leaves the cache as it is. -/
theorem Turn.early {v : Verdict} (hverdict : r.verdict start token context = v)
    (hearly : v.origin ∉ [Origin.registry, .nothing])
    (hentry : s.slot? (Key.ofToken token context) = start.slot? (Key.ofToken token context))
    (stage : Stage) (host : σ) :
    Turn r context token fits start s stage (Stage.ended v.answer) { s with host } where
  coherent := by
    refine .ended (congrArg Verdict.answer hverdict.symm) fun _ => ?_
    exact Eq.trans hentry (Resolver.leaves_eq_slot? hverdict hearly).symm
  touches := State.touches_host _ s host
  nearer := Nat.zero_le _
  warm _ _ hwarm := hwarm

theorem advance_waiting (hcustoms : Customs.Steady start.customs)
    (hsame : s.customs = start.customs)
    (hentry : s.slot? (Key.ofToken token context) = start.slot? (Key.ofToken token context))
    (inner : Inner σ) :
    ∃ next s' events, waiting.advance inner r token context s = ⟨.ok next, s', events⟩ ∧
      Turn r context token fits start s waiting next s' := by
  have hvalue : (s.consult token context).value? = (start.consult token context).value? :=
    State.consult_value_congr hsame (hsame ▸ hcustoms) token context
  have hdirect : Customs.Direct s.customs := hsame ▸ hcustoms.direct
  have htouches := State.touches_host (Key.ofToken token context) s (s.consult token context).host
  simp only [advance]
  by_cases hp : Passes token context
  · have hgate := gate_eq_false_iff.mpr hp
    simp only [hgate, Bool.false_eq_true, if_false, Exec.bind_apply,
      Resolver.customValue_apply hdirect, hvalue]
    cases hv : (start.consult token context).value? with
    | some text =>
        have hverdict : r.verdict start token context = .custom text := by
          simp [Resolver.verdict, hp, hv]
        exact ⟨_, _, _, rfl, .early hverdict (by simp [Verdict.origin]) hentry _ _⟩
    | none =>
        by_cases hrefuses : r.refuses token = true
        · have hverdict : r.verdict start token context = .refusal := by
            simp [Resolver.verdict, hp, hv, hrefuses]
          simp only [hrefuses, if_true]
          exact ⟨_, _, _, rfl, .early hverdict (by simp [Verdict.origin]) hentry _ _⟩
        · have hallowed : r.refuses token = false := by simpa using hrefuses
          simp only [hallowed, Bool.false_eq_true, if_false]
          exact ⟨_, _, _, rfl, .atCache ⟨hp, hv, hallowed⟩ hentry, htouches, Nat.le_refl 3,
            fun _ _ hwarm => hwarm⟩
  · have hgate := eq_true_of_ne_false (mt gate_eq_false_iff.mp hp)
    have hverdict : r.verdict start token context = .gate := by simp [Resolver.verdict, hp]
    simp only [hgate, if_true]
    exact ⟨_, _, _, rfl, .early hverdict (by simp [Verdict.origin]) hentry _ _⟩

theorem advance_atCache (hreach : r.Reaches token context start) (hnow : s.now = start.now)
    (hentry : s.slot? (Key.ofToken token context) = start.slot? (Key.ofToken token context))
    (inner : Inner σ) :
    ∃ next s' events, atCache.advance inner r token context s = ⟨.ok next, s', events⟩ ∧
      Turn r context token fits start s atCache next s' := by
  have hsame : s.kept? (Key.ofToken token context) = start.kept? (Key.ofToken token context) := by
    simp only [State.kept?, hentry, hnow]
  have hmiss : ∀ {events : List Event} {u : State σ},
      Missed (Key.ofToken token context) s events u →
      Turn r context token fits start s atCache atSource u := by
    intro events u hmissed
    obtain ⟨hkept, hnone, htouches⟩ := State.kept?_of_missed hmissed
    exact ⟨.atSource hreach (hsame ▸ hkept) hnone, htouches, Nat.le_refl 2,
      fun _ _ hwarm => hwarm.missed hmissed⟩
  simp only [advance, Exec.bind_apply, Exec.state_apply, Report.after_nil]
  cases hc : s.cache with
  | none => exact ⟨_, _, _, rfl, hmiss (.uncached hc)⟩
  | some cache =>
      rcases hget : cache.get (Key.ofToken token context) with ⟨found, cache'⟩
      simp only [Option.isNone_some, Bool.false_eq_true, if_false, Exec.bind_apply,
        Exec.update_apply, State.fetch, hc, hget]
      cases found with
      | none => exact ⟨_, _, _, rfl, hmiss (.missed hc hget)⟩
      | some text =>
          obtain ⟨hkept, rfl⟩ := State.kept?_of_get hc hget
          have hverdict : r.verdict start token context = .kept text := by
            rw [hreach.verdict_eq, ← hsame, hkept]
          rw [← hc]
          exact ⟨_, _, _, rfl, .early hverdict (by simp [Verdict.origin]) hentry _ _⟩

theorem advance_atSource (hreturns : r.Returns) (hr : r.Steady)
    (hreach : r.Reaches token context start)
    (hkept : start.kept? (Key.ofToken token context) = none)
    (hnone : s.slot? (Key.ofToken token context) = none) (inner : Inner σ) :
    ∃ next s' events, atSource.advance inner r token context s = ⟨.ok next, s', events⟩ ∧
      Turn r context token fits start s atSource next s' := by
  have hverdict := hreach.verdict_eq
  rw [hkept] at hverdict
  simp only [advance]
  cases hsource : r.source with
  | none =>
      simp only [Resolver.sourced, hsource, Option.bind_none] at hverdict
      have hleaves : r.leaves start token context = none := by simp [Resolver.leaves, hverdict]
      refine ⟨_, _, _, rfl, .ended (congrArg Verdict.answer hverdict.symm) fun _ => ?_, .refl _ s,
        Nat.zero_le _, fun _ _ hwarm => hwarm⟩
      exact hnone.trans hleaves.symm
  | some source =>
      obtain ⟨text?, host, events, ha, -⟩ :=
        hreturns source hsource token.expansion token.identifier context s.host
      rw [Resolver.sourced_eq hr hsource ha] at hverdict
      have htouches := State.touches_host (Key.ofToken token context) s host
      simp only [Exec.bind_apply, State.onHost, ha]
      cases text? with
      | none =>
          have hleaves : r.leaves start token context = none := by
            simp [Resolver.leaves, hverdict, Answer.ofOption, Answer.text?]
          refine ⟨_, _, _, rfl, .ended (congrArg Verdict.answer hverdict.symm) fun _ => ?_,
            htouches, Nat.zero_le _, fun _ _ hwarm => hwarm⟩
          exact Eq.trans hnone hleaves.symm
      | some text =>
          have httl : source.ttl token.expansion token.identifier = r.ttl token := by
            simp [Resolver.ttl, hsource]
          rw [httl]
          exact ⟨_, _, _, rfl, .made hverdict hnone, htouches, Nat.le_refl 1,
            fun _ _ hwarm => hwarm⟩

theorem advance_made (hr : r.Steady) (hverdict : r.verdict start token context = .made text)
    (hagree : start.Agree (fun _ => False) s)
    (hnone : s.slot? (Key.ofToken token context) = none)
    (hroom : fits → (r.ttl token).isNone = false → s.HasRoom (Key.ofToken token context))
    (inner : Inner σ) :
    ∃ next s' events,
      (made text (r.ttl token)).advance inner r token context s = ⟨.ok next, s', events⟩ ∧
      Turn r context token fits start s (made text (r.ttl token)) next s' := by
  refine ⟨_, _, _, rfl, .ended (congrArg Verdict.answer hverdict.symm) fun hfits => ?_,
    State.touches_keep s _ text _, Nat.zero_le _, fun hkeys ht hwarm => ?_⟩
  · refine (State.slot?_keep hnone (hroom hfits) text).trans ?_
    simp only [Resolver.leaves, hverdict, hagree.now, hagree.places]
  · obtain ⟨hreach, hsourced⟩ := Resolver.sourced_of_verdict hverdict
    exact hwarm.keep hkeys ht hreach.passes hreach.allowed
      (fun host => (Resolver.sourced_host hr token context host start.host).trans hsourced) _

/-- A turn of a coherent task leaves it coherent. -/
theorem Coherent.turn (h : Coherent r context token fits start s stage) (hreturns : r.Returns)
    (hr : r.Steady) (hcustoms : Customs.Steady start.customs)
    (hagree : start.Agree (fun _ => False) s)
    (hroom : fits → (r.verdict start token context).origin = .registry →
      (r.ttl token).isNone = false → s.HasRoom (Key.ofToken token context)) (inner : Inner σ) :
    ∃ next s' events, stage.advance inner r token context s = ⟨.ok next, s', events⟩ ∧
      Turn r context token fits start s stage next s' := by
  cases h with
  | waiting hentry => exact advance_waiting hcustoms hagree.customs hentry inner
  | atCache hreach hentry => exact advance_atCache hreach hagree.now hentry inner
  | atSource hreach hkept hnone => exact advance_atSource hreturns hr hreach hkept hnone inner
  | made hverdict hnone =>
      exact advance_made hr hverdict hagree hnone
        (fun hfits => hroom hfits (by rw [hverdict]; rfl)) inner
  | ended hanswer hleaves =>
      exact ⟨_, s, [], rfl, .ended hanswer hleaves, .refl _ s, Nat.zero_le _,
        fun _ _ hwarm => hwarm⟩

/-- A coherent task comes to its end, and to what the state says in which it was started. -/
theorem Coherent.complete (h : Coherent r context token fits start s stage)
    (hreturns : r.Returns) (hr : r.Steady) (hcustoms : Customs.Steady start.customs)
    (hagree : start.Agree (fun _ => False) s)
    (hroom : fits → (r.verdict start token context).origin = .registry →
      (r.ttl token).isNone = false → s.HasRoom (Key.ofToken token context)) (inner : Inner σ) :
    ∃ s' events, stage.complete inner r token context s =
        ⟨.ok (r.verdict start token context).answer, s', events⟩ ∧
      Turn r context token fits start s stage
        (Stage.ended (r.verdict start token context).answer) s' := by
  obtain ⟨left, hleft⟩ : ∃ left, stage.turnsLeft ≤ left := ⟨_, Nat.le_refl _⟩
  induction left generalizing stage s with
  | zero =>
      cases h with
      | ended hanswer hleaves =>
          subst hanswer
          exact ⟨s, [], rfl, .ended rfl hleaves, .refl _ s, Nat.zero_le _, fun _ _ hwarm => hwarm⟩
      | _ => simp [turnsLeft] at hleft
  | succ left ih =>
      obtain ⟨next, u, events, hrun, hturn⟩ := h.turn hreturns hr hcustoms hagree hroom inner
      have hnearer := hturn.nearer
      obtain ⟨s', more, hrun', hend⟩ := ih hturn.coherent
        (hagree.trans (hturn.touches.mono fun _ h => h.elim))
        (fun hfits ho ht => hturn.touches.hasRoom (hroom hfits ho ht)) (by omega)
      refine ⟨s', events ++ more, ?_, hend.coherent, hturn.touches.trans hend.touches,
        Nat.zero_le _, fun hkeys ht hwarm => hend.warm hkeys ht (hturn.warm hkeys ht hwarm)⟩
      rw [← advance_complete, Exec.bind_apply, hrun]
      simp only [hrun', Report.after]

theorem Coherent.mem_of_isSome {all : Finset Key} {tokens : List Token}
    (h : Coherent r context token fits start s stage) (hfits : fits)
    (hcovers : r.Covers all context tokens start) (ht : token ∈ tokens)
    (hsome : (s.slot? (Key.ofToken token context)).isSome = true) :
    Key.ofToken token context ∈ all := by
  cases h with
  | waiting hentry | atCache _ hentry =>
      exact hcovers.keys (State.mem_keys_iff.mpr (hentry ▸ hsome))
  | atSource _ _ hnone | made _ hnone => simp [hnone] at hsome
  | ended _ hleaves => exact hcovers.leaves token ht (hleaves hfits ▸ hsome)

end Stage

/-! ## Tasks side by side -/

theorem exists_set_eq {α : Type} {l : List α} {i : Nat} {a : α} (h : l[i]? = some a) :
    ∃ before after, l = before ++ a :: after ∧ ∀ b, l.set i b = before ++ b :: after := by
  obtain ⟨hlt, hget⟩ := List.getElem?_eq_some_iff.mp h
  refine ⟨l.take i, l.drop (i + 1), ?_, fun b => ?_⟩
  · rw [← hget, List.getElem_cons_drop, List.take_append_drop]
  · rw [List.set_eq_take_append_cons_drop, if_pos hlt]

theorem Task.key_ne {before after : List Task} {task other : Task}
    (hkeys : ((before ++ task :: after).map Task.token).Pairwise fun t u => t.key ≠ u.key)
    (hother : other ∈ before ++ after) : task.token.key ≠ other.token.key := by
  have hmiddle : ((before ++ task :: after).map Task.token).Perm
      (task.token :: (before ++ after).map Task.token) := by
    rw [← List.map_cons]
    exact List.perm_middle.map Task.token
  have hfirst := (hmiddle.pairwise_iff fun {t u} (h : t.key ≠ u.key) => h.symm).mp hkeys
  exact (List.pairwise_cons.mp hfirst).1 _ (List.mem_map_of_mem hother)

/-- The tasks of some tokens are coherent, nothing else has changed since they were started, and a
cache that was sound is sound. -/
structure InStep (r : Resolver σ) (context : Context) (tokens : List Token) (start s : State σ)
    (tasks : List Task) : Prop where
  tokens_eq : tasks.map Task.token = tokens
  agree : start.Agree (fun key => ∀ t ∈ tokens, key ≠ Key.ofToken t context) s
  coherent : ∀ task ∈ tasks,
    task.stage.Coherent r context task.token (r.Fits context tokens start) start s
  warm : r.KeyDetermined → (∀ t ∈ tokens, t.Parsed) → r.Warm start → r.Warm s

namespace InStep

variable {r : Resolver σ} {context : Context} {tokens : List Token} {start s s' : State σ}
  {task : Task} {tasks before after : List Task} {stage : Stage}

theorem started (r : Resolver σ) (context : Context) (tokens : List Token) (s : State σ) :
    InStep r context tokens s s (tokens.map fun token => { token }) where
  tokens_eq := by simp [Function.comp_def]
  agree := .refl _ s
  coherent task ht := by
    obtain ⟨token, -, rfl⟩ := List.mem_map.mp ht
    exact .waiting rfl
  warm _ _ hwarm := hwarm

/-- What a task is to keep has room, if there are places for all. -/
theorem hasRoom (h : InStep r context tokens start s tasks) (ht : task ∈ tasks)
    (hfits : r.Fits context tokens start)
    (horigin : (r.verdict start task.token context).origin = .registry)
    (httl : (r.ttl task.token).isNone = false) : s.HasRoom (Key.ofToken task.token context) := by
  have hmem : ∀ {t : Task}, t ∈ tasks → t.token ∈ tokens :=
    fun ht => h.tokens_eq ▸ List.mem_map_of_mem ht
  obtain ⟨all, hcovers⟩ := hfits
  refine hcovers.hasRoom (hmem ht) ?_ h.agree.places horigin httl
  intro key hkey
  by_cases hown : ∃ t ∈ tokens, key = Key.ofToken t context
  · obtain ⟨t, ht, rfl⟩ := hown
    obtain ⟨other, hother, rfl⟩ := List.mem_map.mp (h.tokens_eq ▸ ht)
    exact (h.coherent other hother).mem_of_isSome ⟨all, hcovers⟩ hcovers ht
      (State.mem_keys_iff.mp hkey)
  · exact hcovers.keys ((h.agree.mem_keys_iff fun t ht heq => hown ⟨t, ht, heq⟩).mp hkey)

/-- What one task does leaves the others in step. -/
theorem replace (h : InStep r context tokens start s (before ++ task :: after))
    (hkeys : tokens.Pairwise fun t u => t.key ≠ u.key)
    (hturn : Stage.Turn r context task.token (r.Fits context tokens start) start s task.stage stage
      s') :
    InStep r context tokens start s' (before ++ { task with stage } :: after) := by
  have htokens := h.tokens_eq
  have htask : task.token ∈ tokens := by simp [← htokens]
  refine ⟨by simpa using htokens, h.agree.trans (hturn.touches.mono fun key hkey => hkey _ htask),
    ?_, fun hdetermined hparsed hwarm =>
      hturn.warm hdetermined (hparsed _ htask) (h.warm hdetermined hparsed hwarm)⟩
  have hothers : ∀ other ∈ before ++ after, task.token.key ≠ other.token.key :=
    fun other hother => Task.key_ne (htokens ▸ hkeys) hother
  intro other hother
  rcases List.mem_append.mp hother with hbefore | hlater
  · have hne := hothers other (List.mem_append_left _ hbefore)
    exact (h.coherent other (List.mem_append_left _ hbefore)).congr
      (hturn.touches.entry _ (Key.ofToken_ne hne context).symm)
  · rcases List.mem_cons.mp hlater with rfl | hafter
    · exact hturn.coherent
    · have hne := hothers other (List.mem_append_right _ hafter)
      exact (h.coherent other (List.mem_append_right _ (List.mem_cons_of_mem _ hafter))).congr
        (hturn.touches.entry _ (Key.ofToken_ne hne context).symm)

/-- Whatever turns tasks have, they stay in step. -/
theorem takeTurns (hreturns : r.Returns) (hr : r.Steady) (hcustoms : Customs.Steady start.customs)
    (hkeys : tokens.Pairwise fun t u => t.key ≠ u.key) (inner : Inner σ) (turns : List Nat)
    (h : InStep r context tokens start s tasks) :
    ∃ tasks' s' events, r.takeTurns inner context turns tasks s = ⟨.ok tasks', s', events⟩ ∧
      InStep r context tokens start s' tasks' := by
  induction turns generalizing s tasks with
  | nil => exact ⟨tasks, s, [], rfl, h⟩
  | cons i rest ih =>
      cases hi : tasks[i]? with
      | none =>
          simp only [Resolver.takeTurns, hi]
          exact ih h
      | some task =>
          obtain ⟨before, after, rfl, hset⟩ := exists_set_eq hi
          have htask : task ∈ before ++ task :: after := by simp
          have hroom := fun hfits => h.hasRoom htask hfits
          obtain ⟨next, u, events, hrun, hturn⟩ := (h.coherent task htask).turn hreturns hr hcustoms
            (h.agree.mono fun _ h => h.elim) hroom inner
          have hnext := h.replace hkeys hturn
          rw [← hset] at hnext
          obtain ⟨tasks', s', more, hrun', hlast⟩ := ih hnext
          refine ⟨tasks', s', events ++ more, ?_, hlast⟩
          simp only [Resolver.takeTurns, hi, Exec.bind_apply, Exec.attempt, hrun, Option.getD_some,
            hrun', Report.after]

def settled (r : Resolver σ) (context : Context) (start : State σ) (task : Task) : Task :=
  { task with stage := .ended (r.verdict start task.token context).answer }

/-- Tasks in step come to their ends, and the answers that are gathered are the verdicts of the
state in which they were started. -/
theorem finishTasks (hreturns : r.Returns) (hr : r.Steady)
    (hcustoms : Customs.Steady start.customs) (hkeys : tokens.Pairwise fun t u => t.key ≠ u.key)
    (inner : Inner σ) {before rest : List Task} (answers : Answers)
    (h : InStep r context tokens start s (before ++ rest)) :
    ∃ answers' s' events, r.finishTasks inner context rest answers s = ⟨.ok answers', s', events⟩ ∧
      InStep r context tokens start s' (before ++ rest.map (settled r context start)) ∧
      ∀ key, answers'.find? key =
        (answerIn (r.verdicts start context (rest.map Task.token)) key).or (answers.find? key) := by
  induction rest generalizing s before answers with
  | nil => exact ⟨answers, s, [], rfl, by simpa using h, fun key => by simp [answerIn]⟩
  | cons task rest ih =>
      have htask : task ∈ before ++ task :: rest := by simp
      obtain ⟨u, events, hrun, hended⟩ := (h.coherent task htask).complete hreturns hr
        hcustoms (h.agree.mono fun _ h => h.elim) (fun hfits => h.hasRoom htask hfits) inner
      have hnext : InStep r context tokens start u
          ((before ++ [settled r context start task]) ++ rest) := by
        simpa [settled] using h.replace hkeys hended
      obtain ⟨answers', s', more, hrun', hlast, hfind⟩ := ih
        (answers.insert task.token.key (r.verdict start task.token context).answer) hnext
      refine ⟨answers', s', events ++ more, ?_, by simpa using hlast, fun key => ?_⟩
      · simp only [Resolver.finishTasks, Exec.bind_apply, Exec.attempt, hrun, hrun', Report.after]
      · rw [hfind, List.map_cons, Resolver.verdicts_cons, answerIn_cons, Table.find?_insert]
        by_cases hkey : task.token.key = key
        · have hlater : answerIn (r.verdicts start context (rest.map Task.token)) key = none := by
            apply answerIn_eq_none
            intro x hx
            obtain ⟨t, ht, rfl⟩ := List.mem_map.mp hx
            have hsplit := h.tokens_eq ▸ hkeys
            rw [List.map_append, List.map_cons] at hsplit
            have hfirst := (List.pairwise_cons.mp (List.pairwise_append.mp hsplit).2.1).1 t ht
            exact fun heq => hfirst (hkey.trans heq.symm)
          simp [hkey, hlater]
        · simp [hkey, Ne.symm hkey]

/-- When all tasks have ended, what is left is what they leave. -/
theorem leads (h : InStep r context tokens start s (tasks.map (settled r context start))) :
    r.Leads context tokens start s := by
  refine ⟨h.agree, fun hfits t ht => ?_⟩
  obtain ⟨task, htask, rfl⟩ := List.mem_map.mp (h.tokens_eq ▸ ht)
  obtain ⟨origin, -, rfl⟩ := List.mem_map.mp htask
  cases h.coherent _ htask with
  | ended _ hleaves => exact hleaves hfits

end InStep

namespace Resolver

variable {r : Resolver σ} {s : State σ}

theorem takeTurns_nil (inner : Inner σ) (r : Resolver σ) (context : Context) (turns : List Nat) :
    r.takeTurns inner context turns [] = return [] := by
  induction turns with
  | nil => rfl
  | cons i rest ih => simpa [takeTurns] using ih

theorem resolveInTurns_eq (turns : List Nat) (r : Resolver σ) (text : String) (context : Context) :
    r.resolveInTurns turns text context = (do
      let tasks ← r.takeTurns r.inner context turns
        ((onePerKey (r.delimiter.tokens text).reverse).map fun token => { token })
      let answers ← r.finishTasks r.inner context tasks .empty
      r.render r.fallback answers (r.delimiter.tokens text).reverse text) := by
  funext s
  unfold resolveInTurns
  cases h : r.tokens? text with
  | none =>
      rw [tokens_eq_nil_of_tokens? h]
      simp [onePerKey, takeTurns_nil, finishTasks, render, splice]
  | some tokens => rw [tokens_eq_of_tokens? h]

/-- Tasks come back whatever turns they have, and the text is rendered with the verdicts of the
state in which they were started. -/
theorem resolveInTurns_leads (hreturns : r.Returns) (hr : r.Steady)
    (hcustoms : Customs.Steady s.customs) (turns : List Nat) (text : String) (context : Context) :
    ∃ out s' events, r.resolveInTurns turns text context s = ⟨.ok out, s', events⟩ ∧
      r.Leads context (onePerKey (r.delimiter.tokens text).reverse) s s' ∧
      r.Yields r.fallback text
        (r.verdicts s context (onePerKey (r.delimiter.tokens text).reverse)) out ∧
      (r.KeyDetermined → r.Warm s → r.Warm s') := by
  have hkeys := onePerKey_pairwise (r.delimiter.tokens text).reverse
  obtain ⟨tasks, u, events, hturns, hstep⟩ := (InStep.started r context _ s).takeTurns hreturns hr
    hcustoms hkeys r.inner turns
  have hall : InStep r context _ s u ([] ++ tasks) := hstep
  obtain ⟨answers, s', more, hfinish, hlast, hfind⟩ :=
    hall.finishTasks hreturns hr hcustoms hkeys r.inner .empty
  rw [hstep.tokens_eq] at hfind
  obtain ⟨out, hyields, hrender⟩ := r.exists_yields r.fallback text answers _ (by simpa using hfind)
  refine ⟨out, s', events ++ more, ?_, hlast.leads, hyields, fun hdetermined => ?_⟩
  · rw [resolveInTurns_eq]
    simp [Exec.bind_apply, hturns, hfinish, hrender, Report.after]
  · exact hlast.warm hdetermined fun t ht => parsed_of_mem_onePerKey ht

theorem finishTasks_waiting (r : Resolver σ) (inner : Inner σ) (context : Context)
    (tokens : List Token) (answers : Answers) :
    r.finishTasks inner context (tokens.map fun token => { token }) answers =
      r.runTasks inner context tokens answers := by
  induction tokens generalizing answers with
  | nil => rfl
  | cons token rest ih =>
      simp only [List.map_cons, finishTasks, runTasks, Stage.complete]
      congr 1
      funext answer
      cases answer <;> exact ih _

/-- With no turns before, tasks run one after another in the order in which they are started. -/
theorem resolveInTurns_nil (r : Resolver σ) : r.resolveInTurns [] = r.resolveByTasks := by
  funext text context
  have hid : ∀ tokens : List Token, (id tokens).Perm tokens := List.Perm.refl
  have htasks := resolveInOrder_eq hid r text context
  rw [resolveInTurns_eq, resolveByTasks, htasks]
  simp [takeTurns, finishTasks_waiting]

theorem resolve_leads (hreturns : r.Returns) (hr : r.Steady) (hcustoms : Customs.Steady s.customs)
    (text : String) (context : Context) :
    ∃ out s' events, r.resolve text context s = ⟨.ok out, s', events⟩ ∧
      r.Leads context (onePerKey (r.delimiter.tokens text).reverse) s s' ∧
      r.Yields r.fallback text
        (r.verdicts s context (onePerKey (r.delimiter.tokens text).reverse)) out := by
  obtain ⟨out, s', events, trace, hrun, -, htrace, htokens, hyields⟩ :=
    pass_traces hreturns hcustoms.direct r.inner r.fallback text context
  have hkeys := htokens ▸ onePerKey_pairwise (r.delimiter.tokens text).reverse
  obtain ⟨hverdicts, hleads⟩ := htrace.leads hr hcustoms hkeys
  rw [htokens] at hverdicts hleads
  exact ⟨out, s', events, hrun, hleads, hverdicts ▸ hyields⟩

theorem resolveInOrder_leads (hreturns : r.Returns) (hr : r.Steady)
    (hcustoms : Customs.Steady s.customs) (schedule : Schedule) (text : String)
    (context : Context) :
    ∃ out s' events, r.resolveInOrder schedule.order text context s = ⟨.ok out, s', events⟩ ∧
      r.Leads context (schedule.order (onePerKey (r.delimiter.tokens text).reverse)) s s' ∧
      r.Yields r.fallback text
        (r.verdicts s context (schedule.order (onePerKey (r.delimiter.tokens text).reverse)))
        out := by
  obtain ⟨out, s', events, trace, hrun, -, htrace, htokens, hyields⟩ :=
    resolveInOrder_traces hreturns hcustoms.direct schedule.perm text context
  have hkeys : (trace.map Settled.token).Pairwise fun t u => t.key ≠ u.key := by
    rw [htokens, (schedule.perm _).pairwise_iff fun {t u} (h : t.key ≠ u.key) => h.symm]
    exact onePerKey_pairwise _
  obtain ⟨hverdicts, hleads⟩ := htrace.leads hr hcustoms hkeys
  rw [htokens] at hverdicts hleads
  exact ⟨out, s', events, hrun, hleads, hverdicts ▸ hyields⟩

theorem Yields.eq_of_perm {fallback : Option String} {text out out' : String} {context : Context}
    {tokens tokens' : List Token} (h : r.Yields fallback text (r.verdicts s context tokens) out)
    (h' : r.Yields fallback text (r.verdicts s context tokens') out')
    (hperm : tokens'.Perm tokens) (hkeys : tokens.Pairwise fun t u => t.key ≠ u.key) :
    out' = out := by
  have htokens : ∀ some : List Token,
      (r.verdicts s context some).map Settled.token = some := by
    intro some
    simp [verdicts, Function.comp_def]
  have htexts : ∀ (some : List Token), ∀ x ∈ r.verdicts s context some,
      x.answer.text? = (r.verdict s x.token context).answer.text? := by
    intro some x hx
    obtain ⟨t, -, rfl⟩ := List.mem_map.mp hx
    rfl
  refine h'.unique h (fun key => ?_) s
  apply answerIn_text_congr (m := fun t => (r.verdict s t context).answer.text?)
    (htexts tokens') (htexts tokens)
  · rwa [htokens, htokens]
  · rw [htokens, hperm.pairwise_iff fun {t u} (h : t.key ≠ u.key) => h.symm]
    exact hkeys

/-- Tasks do what a pass does. Whatever order they run in one after another, and whatever turns they
have side by side, the text that comes of them is the text of the pass. The cache ends with the
same entries too, if it has places for what it holds and for what the tokens leave; which entries a
cache without places keeps is not settled by what it is asked to keep. -/
theorem tasks_agree_with_pass
    (hregistry : ∀ source, r.source = some source →
      ∃ g : Registry σ, source = g.toSource ∧ g.Calm ∧ g.Steady)
    (hcustoms : Customs.Steady s.customs) (text : String) (context : Context) :
    ∃ out s' events, r.resolve text context s = ⟨.ok out, s', events⟩ ∧
      (∀ schedule : Schedule, ∃ u more,
        r.resolveInOrder schedule.order text context s = ⟨.ok out, u, more⟩ ∧
        (r.Fits context (onePerKey (r.delimiter.tokens text).reverse) s →
          ∀ key, u.slot? key = s'.slot? key)) ∧
      ∀ turns : List Nat, ∃ u more,
        r.resolveInTurns turns text context s = ⟨.ok out, u, more⟩ ∧
        (r.Fits context (onePerKey (r.delimiter.tokens text).reverse) s →
          ∀ key, u.slot? key = s'.slot? key) := by
  obtain ⟨hreturns, hr⟩ := steady_of_registry hregistry
  have hkeys := onePerKey_pairwise (r.delimiter.tokens text).reverse
  obtain ⟨out, s', events, hrun, hleads, hyields⟩ := resolve_leads hreturns hr hcustoms text context
  refine ⟨out, s', events, hrun, fun schedule => ?_, fun turns => ?_⟩
  · obtain ⟨out', u, more, hrun', hleads', hyields'⟩ :=
      resolveInOrder_leads hreturns hr hcustoms schedule text context
    obtain rfl := hyields.eq_of_perm hyields' (schedule.perm _) hkeys
    exact ⟨u, more, hrun', fun hfits key => hleads.slot?_eq hleads' (schedule.perm _) hfits key⟩
  · obtain ⟨out', u, more, hrun', hleads', hyields', -⟩ :=
      resolveInTurns_leads hreturns hr hcustoms turns text context
    obtain rfl := hyields.eq_of_perm hyields' (.refl _) hkeys
    exact ⟨u, more, hrun', fun hfits key => hleads.slot?_eq hleads' (.refl _) hfits key⟩

end Resolver

def twoPlaces : State Unit := .withEmptyCache 2 ⟨0⟩ ()

def sideBySide : Resolver Unit := (Registry.single (.constant "a" .second "v")).toResolver

theorem sideBySide_fits : sideBySide.Fits .empty
    (Resolver.onePerKey (sideBySide.delimiter.tokens "%a_b%%a_c%").reverse) twoPlaces := by
  refine ⟨{.global "a_b", .global "a_c"}, ?_, ?_, ?_⟩
  · decide +kernel
  · decide +kernel
  · decide +kernel

/-- Two tasks of which the second overtakes the first, and which both find their places. -/
theorem sideBySide_agree :
    (∀ source, sideBySide.source = some source →
      ∃ g : Registry Unit, source = g.toSource ∧ g.Calm ∧ g.Steady) ∧
    Customs.Steady twoPlaces.customs ∧
    ∃ out s' events, sideBySide.resolve "%a_b%%a_c%" .empty twoPlaces = ⟨.ok out, s', events⟩ ∧
      ∃ u more,
        sideBySide.resolveInTurns [0, 1, 1, 0, 1, 1] "%a_b%%a_c%" .empty twoPlaces =
          ⟨.ok out, u, more⟩ ∧
        ∀ key, u.slot? key = s'.slot? key := by
  have hregistry : ∀ source, sideBySide.source = some source →
      ∃ g : Registry Unit, source = g.toSource ∧ g.Calm ∧ g.Steady := by
    intro source h
    exact ⟨_, (Option.some.inj h).symm, Registry.single_calm _,
      Registry.single_steady (Handler.constant_steady _ _ _)⟩
  have hcustoms : Customs.Steady twoPlaces.customs := Customs.forall_empty
  refine ⟨hregistry, hcustoms, ?_⟩
  obtain ⟨out, s', events, hrun, -, hturns⟩ :=
    Resolver.tasks_agree_with_pass hregistry hcustoms "%a_b%%a_c%" .empty
  obtain ⟨u, more, hrun', hentries⟩ := hturns [0, 1, 1, 0, 1, 1]
  exact ⟨out, s', events, hrun, u, more, hrun', hentries sideBySide_fits⟩

/-- A handler with one value for all, after whose call the locator finds nobody any more, and
another one that runs for a viewer and a target who are found. -/
def forgetful : Registry Bool where
  families := (Table.empty.insert "a" { Family.empty with any := some (Handler.inSameWorld
      (.ofPattern "a" .any fun _ lost => (.value "near", lost))) }).insert "c"
    { Family.empty with any := some (.ofPattern "c" .any fun _ _ => (.value "c", true)) }
  defaultTtl := .standard
  locator := some fun _ lost => (if lost then .unknown else .found ⟨"w", 0, 0, 0⟩, lost)

theorem forgetful_calm : forgetful.Calm := by
  intro locator hl whom lost message
  obtain rfl := Option.some.inj hl
  cases lost <;> simp

theorem forgetful_steady {expansion identifier : String} {h : Handler Bool}
    {argument : Option String}
    (hchoose : forgetful.choose expansion identifier = some (h, argument)) : h.Steady := by
  simp only [Registry.choose, forgetful, Table.find?_insert] at hchoose
  split_ifs at hchoose
  · cases hchoose
    exact ⟨fun _ => .value "c", fun _ _ => rfl⟩
  · cases hchoose
    exact ⟨fun _ => .value "near", fun _ _ => rfl⟩
  · cases hchoose

/-- The order of tasks shows where something has a memory that no handler has: in the text if the
locator goes by what was called before, and in the cache if there are not places for all. -/
theorem Resolver.order_shows :
    (¬ ∀ (g : Registry Bool) (s : State Bool) (schedule : Schedule) (text : String)
      (context : Context), g.Calm →
      (∀ expansion identifier h argument,
        g.choose expansion identifier = some (h, argument) → h.Steady) →
      Customs.Steady s.customs →
      (g.toResolver.resolveInOrder schedule.order text context s).result =
        (g.toResolver.resolve text context s).result) ∧
    ¬ ∀ (g : Registry Unit) (s : State Unit) (schedule : Schedule) (text : String)
      (context : Context), g.Calm → g.Steady → Customs.Steady s.customs → ∀ key,
      (g.toResolver.resolveInOrder schedule.order text context s).state.slot? key =
        (g.toResolver.resolve text context s).state.slot? key := by
  constructor
  · intro hclaim
    have hcustoms : Customs.Steady (State.initial none false).customs := Customs.forall_empty
    have hsame := hclaim forgetful (.initial none false) .reversed "%rel_a_x%%c_y%"
      (.ofRelation ⟨1⟩ ⟨2⟩) forgetful_calm (fun _ _ _ _ => forgetful_steady) hcustoms
    exact absurd hsame (by decide +kernel)
  · intro hclaim
    have hcustoms : Customs.Steady (State.withEmptyCache 1 ⟨0⟩ ()).customs := Customs.forall_empty
    have hsame := hclaim _ (.withEmptyCache 1 ⟨0⟩ ()) .reversed "%a_b%%a_c%" .empty
      (Registry.single_calm _) (Registry.single_steady (Handler.constant_steady "a" .second "v"))
      hcustoms (.global "a_b")
    exact absurd hsame (by decide +kernel)

end Placeholder
