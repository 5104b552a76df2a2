import Placeholder.Proofs.Freshness
import Placeholder.Proofs.Provenance

/-!
# Handlers for subjects that are online

Whether a subject is online is asked for a handler that is about to run. It is not asked for a value
that was kept: an offline subject is told what it was told while it was online, until the value is
stale or dropped. That is all an offline subject can be told of such a handler.
-/
namespace Placeholder

variable {σ : Type}

/-- Where an answer for which a handler for online subjects is chosen comes from, over whole runs. A
fresh value is for a subject that is online. A cached one was made earlier in the run for the same
question and the same subjects, while that subject was online; since then nothing has ended its use,
and it is younger than its time to live. -/
theorem Resolver.online_only {r : Resolver σ} {g : Registry σ}
    (hsource : r.source = some g.toSource) {calls : List (Call σ)} {capacity : UInt64}
    {clock : Clock} {host : σ} {before after : List Happening} {x : Settled} {now : UInt64}
    (hsplit : (r.run calls (.withEmptyCache capacity clock host)).history =
      before ++ .settled x now :: after)
    (hpresent : x.answer.isPresent = true) (hcustom : x.origin ≠ .custom) {h : Handler σ}
    {argument : Option String}
    (hchoose : g.choose x.token.expansion x.token.identifier = some (h, argument))
    (honline : h.requiresOnline = true) :
    (∃ text, x.answer = .value text ∧ x.MadeBy g h text ∧ x.context.online = true) ∨
    ∃ text older y written newer, x.answer = .cached text ∧
      before = older ++ .settled y written :: newer ∧ y.MadeBy g h text ∧
      y.ask = x.ask ∧ y.context.online = true ∧
      (∀ z ∈ newer, ¬ z.Ends x.token x.context) ∧
      now.toNat - written.toNat <
        (g.ttl x.token.expansion x.token.identifier).millis.toNat := by
  cases hanswer : x.answer with
  | empty => simp [hanswer, Answer.isPresent, Answer.isEmpty] at hpresent
  | value text =>
      left
      have hx : x.Accounted r g before now := run_accounted hsource hsplit
      obtain ⟨-, h', hmade⟩ := hx.of_produced (hx.of_value hcustom hanswer)
      obtain rfl := hmade.eq_of_choose hchoose
      exact ⟨text, rfl, hmade, hmade.suits.online honline⟩
  | cached text =>
      right
      obtain ⟨older, y, written, newer, h', hbefore, -, hmade, hask, hends, hfresh⟩ :=
        run_cached hsource hsplit hanswer
      have he : y.token.expansion = x.token.expansion := congrArg Ask.expansion hask
      have hi : y.token.identifier = x.token.identifier := congrArg Ask.identifier hask
      rw [← he, ← hi] at hchoose
      obtain rfl := hmade.eq_of_choose hchoose
      exact ⟨text, older, y, written, newer, rfl, hbefore, hmade, hask, hmade.suits.online honline,
        hends, hfresh⟩

/-! ## A subject that leaves -/

def onlineHandler : Registry Unit := .single (Handler.constant "a" .second "v").forOnline

def someSubject : Subject := ⟨1⟩

/-- A subject asks, leaves, and asks again in the same instant. -/
def askedAfterLeaving : List (Call Unit) :=
  [.ask (.resolvePlaceholder "a_b" (.ofSubject someSubject)),
    .ask (.resolvePlaceholder "a_b" (.ofOffline someSubject))]

def askedOnline : Settled :=
  ⟨⟨0, 3, "a", "b", false⟩, .ofSubject someSubject, .registry, .value "v"⟩

def askedOffline : Settled :=
  ⟨⟨0, 3, "a", "b", false⟩, .ofOffline someSubject, .cache, .cached "v"⟩

set_option maxRecDepth 2000 in
theorem askedAfterLeaving_history :
    (onlineHandler.toResolver.run askedAfterLeaving oneState).history =
      [.settled askedOnline 0, .settled askedOffline 0] := by
  with_unfolding_all rfl

/-- The second answer is the one from before the subject left. -/
theorem askedAfterLeaving_online :
    onlineHandler.toResolver.source = some onlineHandler.toSource ∧
    (onlineHandler.toResolver.run askedAfterLeaving oneState).history =
      [.settled askedOnline 0] ++ .settled askedOffline 0 :: [] ∧
    askedOffline.answer.isPresent = true ∧ askedOffline.origin ≠ .custom ∧
    ∃ h argument, onlineHandler.choose askedOffline.token.expansion askedOffline.token.identifier =
      some (h, argument) ∧ h.requiresOnline = true ∧
    ((∃ text, askedOffline.answer = .value text ∧ askedOffline.MadeBy onlineHandler h text ∧
      askedOffline.context.online = true) ∨
    ∃ text older y written newer, askedOffline.answer = .cached text ∧
      [.settled askedOnline 0] = older ++ .settled y written :: newer ∧
      y.MadeBy onlineHandler h text ∧ y.ask = askedOffline.ask ∧ y.context.online = true ∧
      (∀ z ∈ newer, ¬ Happening.Ends askedOffline.token askedOffline.context z) ∧
      (0 : UInt64).toNat - written.toNat < (onlineHandler.ttl askedOffline.token.expansion
        askedOffline.token.identifier).millis.toNat) := by
  have hchoose : onlineHandler.choose askedOffline.token.expansion askedOffline.token.identifier =
      some ((Handler.constant "a" .second "v").forOnline, none) := by
    with_unfolding_all rfl
  have hcustom : askedOffline.origin ≠ .custom := nofun
  refine ⟨rfl, askedAfterLeaving_history, rfl, hcustom, _, _, hchoose, rfl, ?_⟩
  exact Resolver.online_only (r := onlineHandler.toResolver) rfl askedAfterLeaving_history rfl
    hcustom hchoose rfl

/-- Offline subjects are answered with values of handlers for online subjects. -/
theorem Resolver.offline_answered :
    ¬ ∀ (r : Resolver Unit) (g : Registry Unit) (calls : List (Call Unit)) (capacity : UInt64)
      (clock : Clock) (before after : List Happening) (x : Settled) (now : UInt64)
      (h : Handler Unit) (argument : Option String), r.source = some g.toSource →
      (r.run calls (.withEmptyCache capacity clock ())).history =
        before ++ .settled x now :: after →
      x.answer.isPresent = true → x.origin ≠ .custom →
      g.choose x.token.expansion x.token.identifier = some (h, argument) →
      h.requiresOnline = true → x.context.online = true := by
  intro hclaim
  have hchoose : onlineHandler.choose askedOffline.token.expansion askedOffline.token.identifier =
      some ((Handler.constant "a" .second "v").forOnline, none) := by
    with_unfolding_all rfl
  have honline := hclaim onlineHandler.toResolver onlineHandler askedAfterLeaving 1 ⟨0⟩
    [.settled askedOnline 0] [] askedOffline 0 _ _ rfl askedAfterLeaving_history rfl nofun hchoose
    rfl
  cases honline

end Placeholder
