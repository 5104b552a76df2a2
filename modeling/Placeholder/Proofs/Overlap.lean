import Placeholder.Proofs.Interleavings

/-!
# The cache does not show to tasks side by side

Between calls of any kind texts may be resolved by tasks that have their turns in any order. Two
resolvers that differ in their caches alone still give the same texts and the same answers, if
foreign code is steady and the source answers by keys, even if the tasks of the one have other turns
than those of the other. Tasks side by side give what a pass gives, and they leave a sound cache
sound.
-/
namespace Placeholder

variable {σ : Type}

/-- A call, or a text whose tasks have some turns before the rest of their work is done. -/
inductive Act (σ : Type) where
  | call (made : Call σ)
  | inTurns (turns : List Nat) (text : String) (context : Context)

namespace Act

def perform (r : Resolver σ) : Act σ → Exec (State σ) Reply
  | call made => made.perform r
  | inTurns turns text context => do return .text (← r.resolveInTurns turns text context)

/-- The same act, but for the order in which tasks run and for the turns that they have. -/
inductive Twin : Act σ → Act σ → Prop
  | call {first second : Call σ} : first.Twin second → Twin (call first) (call second)
  | inTurns (first second : List Nat) (text : String) (context : Context) :
      Twin (inTurns first text context) (inTurns second text context)

def Steady : Act σ → Prop
  | call made => made.Steady
  | inTurns _ _ _ => True

end Act

namespace Resolver

/-- The replies to acts that come one after another. -/
def replies (r : Resolver σ) : List (Act σ) → State σ → List (Except Panic Reply)
  | [], _ => []
  | act :: rest, s =>
    let report := act.perform r s
    report.result :: r.replies rest report.state

variable {r : Resolver σ} {s u : State σ}

theorem resolveInTurns_result (hreturns : r.Returns) (hr : r.Steady)
    (hcustoms : Customs.Steady s.customs) (turns : List Nat) (text : String) (context : Context) :
    (r.resolveInTurns turns text context s).result = (r.resolve text context s).result := by
  obtain ⟨out, _, _, hrun, -, hyields, -⟩ :=
    resolveInTurns_leads hreturns hr hcustoms turns text context
  obtain ⟨out', _, _, hpass, -, hyields'⟩ := resolve_leads hreturns hr hcustoms text context
  obtain rfl := hyields.eq_of_perm hyields' (.refl _) (onePerKey_pairwise _)
  rw [hrun, hpass]

theorem Paired.resolve_result (h : r.Paired s u) (hreturns : r.Returns) (hr : r.Steady)
    (hkeys : r.KeyDetermined) (text : String) (context : Context) :
    (r.resolve text context s).result = (r.resolve text context u).result := by
  have hsteady : Customs.Steady u.customs := h.customs ▸ h.steady
  obtain ⟨reply, hreply, hreply', -⟩ := h.query hreturns hr hkeys (.same (.resolve text context))
  obtain ⟨out, _, _, hrun, -⟩ := resolve_leads hreturns hr h.steady text context
  obtain ⟨out', _, _, hrun', -⟩ := resolve_leads hreturns hr hsteady text context
  simp only [Query.perform, Exec.bind_pure_apply, hrun, hrun'] at hreply hreply'
  cases hreply
  cases hreply'
  rw [hrun, hrun']

theorem Paired.inTurns (h : r.Paired s u) (hreturns : r.Returns) (hr : r.Steady)
    (hkeys : r.KeyDetermined) (first second : List Nat) (text : String) (context : Context) :
    ∃ out, (r.resolveInTurns first text context s).result = .ok out ∧
      (r.resolveInTurns second text context u).result = .ok out ∧
      r.Paired (r.resolveInTurns first text context s).state
        (r.resolveInTurns second text context u).state := by
  have hsteady : Customs.Steady u.customs := h.customs ▸ h.steady
  obtain ⟨out, s', _, hrun, hleads, -, hwarm⟩ :=
    resolveInTurns_leads hreturns hr h.steady first text context
  obtain ⟨out', u', _, hrun', hleads', -⟩ :=
    resolveInTurns_leads hreturns hr hsteady second text context
  have hpass := resolveInTurns_result hreturns hr h.steady first text context
  have hpass' := resolveInTurns_result hreturns hr hsteady second text context
  have hsame := h.resolve_result hreturns hr hkeys text context
  rw [← hpass, ← hpass', hrun, hrun'] at hsame
  obtain rfl : out = out' := Except.ok.inj hsame
  rw [hrun, hrun']
  refine ⟨out, rfl, rfl, ?_, ?_, hwarm hkeys h.warm, ?_⟩
  · rw [hleads.agree.customs, hleads'.agree.customs, h.customs]
  · rw [hleads.agree.customs]
    exact h.steady
  · simpa [h.uncached] using hleads'.agree.clock

theorem Paired.act (h : r.Paired s u) (hreturns : r.Returns) (hr : r.Steady)
    (hkeys : r.KeyDetermined) {act act' : Act σ} (htwin : act.Twin act') (hact : act.Steady) :
    ∃ reply, (act.perform r s).result = .ok reply ∧
      (act'.perform r u).result = .ok reply.plain ∧
      r.Paired (act.perform r s).state (act'.perform r u).state := by
  cases htwin with
  | call hcalls => exact h.call hreturns hr hkeys hcalls hact
  | inTurns first second text context =>
      obtain ⟨out, hrun, hrun', hpaired⟩ := h.inTurns hreturns hr hkeys first second text context
      refine ⟨.text out, ?_, ?_, ?_⟩
      · rw [Act.perform, Exec.bind_pure_apply, hrun]
        rfl
      · rw [Act.perform, Exec.bind_pure_apply, hrun']
        rfl
      · simpa only [Act.perform, Exec.bind_pure_apply] using hpaired

theorem Paired.replies (hreturns : r.Returns) (hr : r.Steady) (hkeys : r.KeyDetermined)
    {acts acts' : List (Act σ)} (htwins : List.Forall₂ Act.Twin acts acts')
    (hacts : ∀ act ∈ acts, act.Steady) (h : r.Paired s u) :
    ∃ replies : List Reply, r.replies acts s = replies.map .ok ∧
      r.replies acts' u = replies.map fun reply => .ok reply.plain := by
  induction htwins generalizing s u with
  | nil => exact ⟨[], rfl, rfl⟩
  | cons htwin _ ih =>
      obtain ⟨hact, hrest⟩ := List.forall_mem_cons.mp hacts
      obtain ⟨reply, hfirst, hfirst', hnext⟩ := h.act hreturns hr hkeys htwin hact
      obtain ⟨rest, hreplies, hreplies'⟩ := ih hrest hnext
      refine ⟨reply :: rest, ?_, ?_⟩
      · simp only [Resolver.replies, hfirst, hreplies, List.map_cons]
      · simp only [Resolver.replies, hfirst', hreplies', List.map_cons]

/-- Overlapping tasks do not show the cache. Whatever is asked, registered, dropped and moved before
and after, and whatever turns tasks have, every act is replied to with and without a cache, and the
replies differ at most in whether an answer is said to have been kept. -/
theorem replies_transparent {g : Registry σ} (hsource : r.source = some g.toSource) (hg : g.Calm)
    (hsteady : g.Steady) (hkeys : g.toSource.KeyDetermined) (capacity : UInt64) (clock : Clock)
    (host host' : σ) {acts acts' : List (Act σ)} (hacts : ∀ act ∈ acts, act.Steady)
    (htwins : List.Forall₂ Act.Twin acts acts') :
    ∃ replies : List Reply,
      r.replies acts (.withEmptyCache capacity clock host) = replies.map .ok ∧
      r.replies acts' (.initial none host') = replies.map fun reply => .ok reply.plain := by
  have hreturns : r.Returns := forall_source hsource hg.returns
  have hr : r.Steady := forall_source hsource (hsteady.source hg)
  exact Paired.replies hreturns hr (forall_source hsource hkeys) htwins hacts
    (.started r capacity clock host host')

end Resolver
end Placeholder
