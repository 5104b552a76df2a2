import Placeholder.Proofs.Freshness
import Placeholder.Proofs.Provenance

/-!
# Relational handlers are confined

What a relational handler makes is about a viewer and a target. It is asked for by relational tokens
alone, it is kept for this viewer and this target alone, and no plain token is ever answered with
it. The mark of the token, the context and what is said about the handler are looked at in different
places; the key ties them together.
-/
namespace Placeholder

variable {σ : Type}

/-- A token that a relational handler is chosen for comes past the refusal only if it is relational
itself, and past the gate only in a context with a viewer and a target, to whom its key belongs. -/
theorem Resolver.Allows.relational {r : Resolver σ} {g : Registry σ} {token : Token}
    {context : Context} (ha : r.Allows token context) (hsource : r.source = some g.toSource)
    {h : Handler σ} {argument : Option String}
    (hchoose : g.choose token.expansion token.identifier = some (h, argument))
    (hrelational : h.relational = true) :
    token.relational = true ∧ ∃ viewer target, context.relation = some (viewer, target) ∧
      Key.ofToken token context = .relational viewer target token.key := by
  have htoken : token.relational = true := by
    by_contra hplain
    have hrefuses : r.refuses token = true := by
      simpa [Resolver.refuses, hsource, Registry.toSource, Registry.isRelational, hchoose,
        hrelational] using hplain
    simp [ha.allowed] at hrefuses
  obtain ⟨viewer, target, hv, ht⟩ := Context.exists_relation (ha.passes htoken)
  refine ⟨htoken, viewer, target, ?_, Key.ofToken_relational htoken hv ht⟩
  simp [Context.relation, hv, ht]

namespace Settled.MadeBy

variable {r : Resolver σ} {g : Registry σ} {x : Settled} {h : Handler σ} {text : String}

theorem relational (hx : x.MadeBy g h text) (hsource : r.source = some g.toSource)
    (ha : r.Allows x.token x.context) (hrelational : h.relational = true) :
    x.token.relational = true ∧ ∃ viewer target, x.context.relation = some (viewer, target) ∧
      x.key = .relational viewer target x.token.key := by
  obtain ⟨argument, -, hchoose, -⟩ := hx.chosen
  exact ha.relational hsource hchoose hrelational

theorem plain (hx : x.MadeBy g h text) (hsource : r.source = some g.toSource)
    (ha : r.Allows x.token x.context) (hplain : x.token.relational = false) :
    h.relational = false := by
  by_contra hrelational
  have htoken := (hx.relational hsource ha (by simpa using hrelational)).1
  simp [hplain] at htoken

end Settled.MadeBy

namespace Resolver

/-- All that is reported while calls are made one after another. -/
def log (r : Resolver σ) : List (Call σ) → State σ → List Event
  | [], _ => []
  | call :: rest, s => (call.perform r s).events ++ r.log rest (call.perform r s).state

variable {r : Resolver σ} {g : Registry σ}

theorem CallsFor.relational {token : Token} {h : Handler σ} {request : Request}
    (hcalls : r.CallsFor g token h request) (hsource : r.source = some g.toSource)
    (hrelational : h.relational = true) : token.relational = true ∧
      ∃ viewer target, request.context.relation = some (viewer, target) := by
  obtain ⟨htoken, viewer, target, hrelation, -⟩ :=
    hcalls.allows.relational hsource hcalls.chosen hrelational
  exact ⟨htoken, viewer, target, hrelation⟩

theorem log_attentive (hsource : r.source = some g.toSource) (calls : List (Call σ))
    (s : State σ) : r.Attentive g (r.log calls s) := by
  induction calls generalizing s with
  | nil => exact .of_notMem (by simp [log])
  | cons call rest ih =>
      refine Attentive.append ?_ (ih _)
      cases call with
      | ask query => exact (query.perform_byMoves hsource s).attentive
      | register | unregister | invalidate | invalidateSubject | clear | advance | setClock =>
          exact .of_notMem (by simp [Call.perform, Exec.bind_apply, Report.after])

/-- What relational handlers do, and what becomes of what they make, while calls are made one after
another. -/
structure Confined (r : Resolver σ) (g : Registry σ) (calls : List (Call σ)) (s : State σ) :
    Prop where
  /-- Each call of a handler is for the token that is settled next. If the handler is relational,
  so is the token, and the context that the handler is called with has a target. -/
  called : ∀ before request after, r.log calls s = before ++ .handlerCalled request :: after →
    ∃ h faults token origin answer rest,
      after = faults ++ .settled token request.context origin answer :: rest ∧
      (∀ e ∈ faults, e = .failed h.expansion) ∧
      g.choose token.expansion token.identifier = some (h, request.argument) ∧
      (h.relational = true → token.relational = true ∧
        ∃ viewer target, request.context.relation = some (viewer, target))
  /-- Each entry of the cache is what some handler made last under the key, also in the middle of
  the work that follows on the calls. If that handler is relational, the key belongs to the viewer and
  the target that it was called with. -/
  kept : ∀ events s' cache key entry, r.Moves g (r.run calls s).state events s' →
    s'.cache = some cache → cache.entries.find? key = some entry →
    ∃ older y newer h, (r.run calls s).history ++ notes (r.run calls s).state.now events =
        older ++ .settled y entry.written :: newer ∧
      y.MadeBy g h entry.value ∧ y.key = key ∧ (∀ z ∈ newer, z.Spares key) ∧
      (h.relational = true → ∃ viewer target, y.context.relation = some (viewer, target) ∧
        key = .relational viewer target y.token.key)
  /-- What a plain token is answered with, if no custom resolver answers, is made by a handler that
  is not relational, now or at an earlier time. -/
  told : ∀ before x now after, (r.run calls s).history = before ++ .settled x now :: after →
    x.token.relational = false → x.origin ≠ .custom → x.answer.isPresent = true →
    ∃ h text, h.relational = false ∧ (x.answer = .value text ∧ x.MadeBy g h text ∨
      x.answer = .cached text ∧ ∃ older y written newer,
        before = older ++ .settled y written :: newer ∧ y.MadeBy g h text ∧ y.ask = x.ask ∧
        ∀ z ∈ newer, ¬ z.Ends x.token x.context)

/-- Over whole runs, relational handlers are called for relational tokens and targets alone, what
they make is kept for the viewer and the target alone, and plain tokens are never answered with
it. -/
theorem relational_confined (hsource : r.source = some g.toSource) (calls : List (Call σ))
    (capacity : UInt64) (clock : Clock) (host : σ) :
    r.Confined g calls (.withEmptyCache capacity clock host) := by
  constructor
  case called =>
    intro before request after he
    cases log_attentive hsource calls _ before request after he with
    | @settled token h rest origin answer hcalls =>
        exact ⟨h, [], token, origin, answer, rest, rfl, by simp, hcalls.chosen,
          hcalls.relational hsource⟩
    | @failed token h rest hcalls =>
        exact ⟨h, [.failed h.expansion], token, .nothing, .empty, rest, rfl, by simp,
          hcalls.chosen, hcalls.relational hsource⟩
  case kept =>
    intro events s' cache key entry hmoves hcache hfind
    obtain ⟨older, y, newer, hsplit, hy, hp, rfl, hspares⟩ :=
      run_latest hsource hmoves hcache hfind
    obtain ⟨ha, h, hmade⟩ := hy.of_produced hp
    refine ⟨older, y, newer, h, hsplit, hmade, rfl, hspares, ?_⟩
    intro hrelational
    exact (hmade.relational hsource ha hrelational).2
  case told =>
    intro before x now after hsplit hplain hcustom hpresent
    cases hanswer : x.answer with
    | empty => simp [hanswer, Answer.isPresent, Answer.isEmpty] at hpresent
    | value text =>
        have hx : x.Accounted r g before now := run_accounted hsource hsplit
        obtain ⟨ha, h, hmade⟩ := hx.of_produced (hx.of_value hcustom hanswer)
        exact ⟨h, text, hmade.plain hsource ha hplain, .inl ⟨rfl, hmade⟩⟩
    | cached text =>
        obtain ⟨older, y, written, newer, h, hbefore, ha, hmade, hask, hends, -⟩ :=
          run_cached hsource hsplit hanswer
        have hy : y.token.relational = false := (congrArg Ask.relational hask).trans hplain
        exact ⟨h, text, hmade.plain hsource ha hy,
          .inr ⟨rfl, older, y, written, newer, hbefore, hmade, hask, hends⟩⟩

end Resolver

def relationalHandler : Registry Unit := .single (Handler.constant "a" .second "v").forRelation

/-- A viewer and a target are asked about, and then plainly the viewer. -/
def askedPlainly : List (Call Unit) :=
  [.ask (.resolvePlaceholder "rel_a_b" (.ofRelation ⟨1⟩ ⟨2⟩)),
    .ask (.resolvePlaceholder "a_b" (.ofRelation ⟨1⟩ ⟨2⟩))]

theorem askedPlainly_confined :
    relationalHandler.toResolver.source = some relationalHandler.toSource ∧
    relationalHandler.toResolver.Confined relationalHandler askedPlainly oneState :=
  ⟨rfl, Resolver.relational_confined (r := relationalHandler.toResolver) rfl askedPlainly 1 ⟨0⟩ ()⟩

end Placeholder
