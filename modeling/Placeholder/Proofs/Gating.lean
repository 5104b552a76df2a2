import Placeholder.Proofs.Settling

/-!
# For whom a handler runs

A handler is made from a pattern; more is said about it by settings, in any order and number. What
is said once is said for good, except for the distance, of which the last one counts. Wherever the
places of viewer and target matter, the handler is relational as well, so nothing that is asked of
places goes unasked. A handler that a registry has chosen runs if the context has all that the
settings ask for, and only then; what cannot be found out counts against it.
-/
namespace Placeholder

variable {σ : Type}

namespace Handler

/-- What can be said about a handler once its pattern is known. -/
inductive Setting where
  | ttl (ttl : Ttl)
  | forRelation
  | forOnline
  | inSameWorld
  | within (distance : Float)

namespace Setting

def apply (h : Handler σ) : Setting → Handler σ
  | ttl t => h.withTtl t
  | forRelation => h.forRelation
  | forOnline => h.forOnline
  | inSameWorld => h.inSameWorld
  | within distance => h.within distance

def asksOnline : Setting → Bool
  | forOnline => true
  | ttl _ | forRelation | inSameWorld | within _ => false

def asksWorld : Setting → Bool
  | inSameWorld => true
  | ttl _ | forRelation | forOnline | within _ => false

def limit? : Setting → Option Float
  | within distance => some distance
  | ttl _ | forRelation | forOnline | inSameWorld => none

def asksPlaces (setting : Setting) : Bool := setting.asksWorld || setting.limit?.isSome

def asksRelation : Setting → Bool
  | forRelation => true
  | setting => setting.asksPlaces

theorem asksRelation_of_asksPlaces {setting : Setting} (h : setting.asksPlaces = true) :
    setting.asksRelation = true := by
  cases setting with
  | forRelation => rfl
  | ttl | forOnline | inSameWorld | within => exact h

end Setting

/-- The handler about which more is said, one setting after another. -/
def set (h : Handler σ) (settings : List Setting) : Handler σ := settings.foldl Setting.apply h

@[simp] theorem set_nil (h : Handler σ) : h.set [] = h := rfl

@[simp] theorem set_cons (h : Handler σ) (setting : Setting) (settings : List Setting) :
    h.set (setting :: settings) = (setting.apply h).set settings := rfl

/-- The distance that was set last. -/
def lastLimit (settings : List Setting) : Option Float :=
  (settings.filterMap Setting.limit?).getLast?

theorem lastLimit_cons (setting : Setting) (settings : List Setting) :
    lastLimit (setting :: settings) = (lastLimit settings).or setting.limit? := by
  unfold lastLimit
  cases h : setting.limit? with
  | none => simp [List.filterMap_cons_none h]
  | some limit => simp [List.filterMap_cons_some h, List.getLast?_cons, Option.or_some]

/-! ## What the settings leave -/

theorem set_mark (mark : Handler σ → Bool) (sets : Setting → Bool)
    (hstep : ∀ h setting, mark (Setting.apply h setting) = (mark h || sets setting))
    (h : Handler σ) (settings : List Setting) :
    mark (h.set settings) = (mark h || settings.any sets) := by
  induction settings generalizing h with
  | nil => simp
  | cons setting settings ih => rw [set_cons, ih, hstep, List.any_cons, Bool.or_assoc]

theorem set_unchanged {α : Type} (part : Handler σ → α)
    (hstep : ∀ h setting, part (Setting.apply h setting) = part h) (h : Handler σ)
    (settings : List Setting) : part (h.set settings) = part h := by
  induction settings generalizing h with
  | nil => rfl
  | cons setting settings ih => rw [set_cons, ih, hstep]

variable (h : Handler σ) (settings : List Setting)

@[simp] theorem set_expansion : (h.set settings).expansion = h.expansion :=
  set_unchanged expansion (fun _ setting => by cases setting <;> rfl) h settings

@[simp] theorem set_run : (h.set settings).run = h.run :=
  set_unchanged run (fun _ setting => by cases setting <;> rfl) h settings

theorem set_requiresOnline :
    (h.set settings).requiresOnline = (h.requiresOnline || settings.any Setting.asksOnline) := by
  apply set_mark requiresOnline
  intro h setting
  cases setting <;> simp [Setting.apply, Setting.asksOnline, withTtl, forRelation, forOnline,
    inSameWorld, within]

theorem set_relational :
    (h.set settings).relational = (h.relational || settings.any Setting.asksRelation) := by
  apply set_mark relational
  intro h setting
  cases setting <;> simp [Setting.apply, Setting.asksRelation, Setting.asksPlaces,
    Setting.asksWorld, Setting.limit?, withTtl, forRelation, forOnline, inSameWorld, within]

theorem set_isUnconstrained :
    (h.set settings).isUnconstrained =
      (h.isUnconstrained && !settings.any Setting.asksPlaces) := by
  have hmark : (!(h.set settings).isUnconstrained) =
      (!h.isUnconstrained || settings.any Setting.asksPlaces) := by
    apply set_mark fun h => !h.isUnconstrained
    intro h setting
    cases setting <;> simp [isUnconstrained, Setting.apply, Setting.asksPlaces, Setting.asksWorld,
      Setting.limit?, withTtl, forRelation, forOnline, inSameWorld, within]
  rw [← Bool.not_inj_iff, hmark, Bool.not_and, Bool.not_not]

theorem set_maxDistance :
    (h.set settings).maxDistance = (lastLimit settings).or h.maxDistance := by
  induction settings generalizing h with
  | nil => rfl
  | cons setting settings ih =>
      rw [set_cons, ih, lastLimit_cons, Option.or_assoc]
      cases setting <;> rfl

end Handler

/-! ## Places -/

theorem not_isNaN_of_le {a b : Float} (h : a ≤ b) :
    a.isNaN = false ∧ b.isNaN = false := by
  change decide (Float.Model.UnpackedFloat.le _ _ = true) = true at h
  change Float.Model.UnpackedFloat.isNaN _ = false ∧ Float.Model.UnpackedFloat.isNaN _ = false
  generalize a.toModel.unpack = a at h
  generalize b.toModel.unpack = b at h
  cases a <;> cases b <;> first | exact ⟨rfl, rfl⟩ | cases h

namespace Location

/-- The places have a distance, and it is no greater than a limit. Nothing of this is said where
there is no number. -/
def Near (a b : Location) (limit : Float) : Prop :=
  ∃ d, a.distance? b = some d ∧ d.isNaN = false ∧ limit.isNaN = false ∧ d ≤ limit

theorem world_eq_of_distance? {a b : Location} {d : Float} (h : a.distance? b = some d) :
    a.world = b.world := by
  unfold distance? at h
  split at h
  · assumption
  · cases h

end Location

/-- Where places matter, both are in one world in any case: there is no distance between worlds. -/
theorem Handler.allowsPlaces_iff {h : Handler σ} (hplaces : h.isUnconstrained = false)
    (a b : Location) :
    h.allowsPlaces a b = true ↔
      a.world = b.world ∧ ∀ limit, h.maxDistance = some limit → a.Near b limit := by
  unfold Handler.allowsPlaces
  cases hlimit : h.maxDistance with
  | none =>
      have hworld : h.sameWorld = true := by simpa [isUnconstrained, hlimit] using hplaces
      simp [hworld]
  | some limit =>
      cases hd : a.distance? b with
      | none => simp [Location.Near, hd]
      | some d =>
          have hworld := Location.world_eq_of_distance? hd
          simp only [hworld, BEq.rfl, Bool.or_true, Bool.true_and, decide_eq_true_eq, true_and,
            Location.Near, hd, Option.some.injEq, forall_eq', exists_eq_left']
          exact ⟨fun hle => ⟨(not_isNaN_of_le hle).1, (not_isNaN_of_le hle).2, hle⟩,
            fun h => h.2.2⟩

namespace Registry

/-- A locator finds the viewer and after it the target, in one world and near enough for a limit if
there is one. -/
def Placed (g : Registry σ) (limit? : Option Float) (context : Context) (host : σ) : Prop :=
  ∃ locator viewer target a b, g.locator = some locator ∧
    context.primary = some viewer ∧ context.secondary = some target ∧
    (locator viewer host).1 = .found a ∧
    (locator target (locator viewer host).2).1 = .found b ∧
    a.world = b.world ∧ ∀ limit, limit? = some limit → a.Near b limit

/-- What is said about a handler admits the context. -/
structure Welcomes (g : Registry σ) (h : Handler σ) (context : Context) (host : σ) : Prop where
  online : h.requiresOnline = true → context.online = true
  relation : h.relational = true →
    ∃ viewer target, context.primary = some viewer ∧ context.secondary = some target
  places : h.relational = true → h.isUnconstrained = false → g.Placed h.maxDistance context host

theorem relation_eq_some_iff {context : Context} {viewer target : Subject} :
    context.relation = some (viewer, target) ↔
      context.primary = some viewer ∧ context.secondary = some target := by
  unfold Context.relation
  cases context.primary <;> cases context.secondary <;> simp

theorem relation_eq_none {context : Context} (h : context.relation = none) :
    ¬ ∃ viewer target, context.primary = some viewer ∧ context.secondary = some target := by
  rintro ⟨viewer, target, hrelation⟩
  rw [relation_eq_some_iff.mpr hrelation] at h
  cases h

theorem placed_iff {g : Registry σ} {locator : Locator σ} (hl : g.locator = some locator)
    {context : Context} {viewer target : Subject}
    (hrelation : context.relation = some (viewer, target)) (limit? : Option Float) (host : σ) :
    g.Placed limit? context host ↔ ∃ a b, (locator viewer host).1 = .found a ∧
      (locator target (locator viewer host).2).1 = .found b ∧
      a.world = b.world ∧ ∀ limit, limit? = some limit → a.Near b limit := by
  obtain ⟨hprimary, hsecondary⟩ := relation_eq_some_iff.mp hrelation
  constructor
  · rintro ⟨locator', viewer', target', a, b, hl', hprimary', hsecondary', hplaced⟩
    obtain rfl : locator' = locator := by simpa [hl'] using hl
    obtain rfl : viewer' = viewer := by simpa [hprimary'] using hprimary
    obtain rfl : target' = target := by simpa [hsecondary'] using hsecondary
    exact ⟨a, b, hplaced⟩
  · rintro ⟨a, b, hplaced⟩
    exact ⟨locator, viewer, target, a, b, hl, hprimary, hsecondary, hplaced⟩

/-- The last gate: a locator is asked for both places. -/
theorem ask_placed {g : Registry σ} (hg : g.Calm) {h : Handler σ}
    (hplaces : h.isUnconstrained = false) {locator : Locator σ} (hl : g.locator = some locator)
    {context : Context} {viewer target : Subject}
    (hrelation : context.relation = some (viewer, target)) (host : σ) :
    ∃ admitted host',
      (do
        let viewerPlace ← locator.ask viewer
        let targetPlace ← locator.ask target
        match viewerPlace, targetPlace with
        | some a, some b => return h.allowsPlaces a b
        | _, _ => return false : Exec σ Bool) host = ⟨.ok admitted, host', []⟩ ∧
      (admitted = true ↔ g.Placed h.maxDistance context host) := by
  rw [placed_iff hl hrelation]
  simp only [Exec.bind_apply, Locator.ask_apply locator _ _ (hg locator hl _ _),
    Report.after_nil]
  cases (locator viewer host).1 with
  | unknown | panic => exact ⟨false, _, rfl, by simp⟩
  | found a =>
      cases (locator target (locator viewer host).2).1 with
      | unknown | panic => exact ⟨false, _, rfl, by simp⟩
      | found b =>
          refine ⟨_, _, rfl, ?_⟩
          rw [Handler.allowsPlaces_iff hplaces]
          simp

/-- A registry finds out whether what is said about a handler admits the context. -/
theorem admits_welcomes {g : Registry σ} (hg : g.Calm) (h : Handler σ) (context : Context)
    (host : σ) :
    ∃ admitted host', g.admits h context host = ⟨.ok admitted, host', []⟩ ∧
      (admitted = true ↔ g.Welcomes h context host) := by
  unfold admits
  cases hoffline : h.requiresOnline && !context.online with
  | true =>
      refine ⟨false, host, rfl, by simp, fun hw => ?_⟩
      have honline : h.requiresOnline = true → context.online = true := hw.online
      simp_all
  | false =>
      have honline : h.requiresOnline = true → context.online = true := by
        simpa using hoffline
      cases hrelational : h.relational with
      | false => exact ⟨true, host, rfl, fun _ => ⟨honline, by simp [hrelational],
          by simp [hrelational]⟩, by simp⟩
      | true =>
          cases hrelation : context.relation with
          | none => exact ⟨false, host, rfl, by simp,
              fun hw => (relation_eq_none hrelation (hw.relation hrelational)).elim⟩
          | some relation =>
              obtain ⟨viewer, target⟩ := relation
              have hboth := relation_eq_some_iff.mp hrelation
              cases hplaces : h.isUnconstrained with
              | true => exact ⟨true, host, rfl,
                  fun _ => ⟨honline, fun _ => ⟨viewer, target, hboth⟩, by simp [hplaces]⟩, by simp⟩
              | false =>
                  have hwelcomes : g.Welcomes h context host ↔
                      g.Placed h.maxDistance context host :=
                    ⟨fun hw => hw.places hrelational hplaces,
                      fun hp => ⟨honline, fun _ => ⟨viewer, target, hboth⟩, fun _ _ => hp⟩⟩
                  rw [hwelcomes]
                  cases hl : g.locator with
                  | none =>
                      refine ⟨false, host, rfl, by simp, fun hp => ?_⟩
                      obtain ⟨locator, _, _, _, _, hl', -⟩ := hp
                      simp [hl] at hl'
                  | some locator => exact ask_placed hg hplaces hl hrelation host

/-! ## Answers -/

/-- All that settings ask for is there. -/
structure Meets (g : Registry σ) (settings : List Handler.Setting) (context : Context) (host : σ) :
    Prop where
  online : ∀ setting ∈ settings, setting.asksOnline = true → context.online = true
  relation : ∀ setting ∈ settings, setting.asksRelation = true →
    ∃ viewer target, context.primary = some viewer ∧ context.secondary = some target
  /-- Viewer and target are found in one world, and no farther apart than was set last. -/
  places : ∀ setting ∈ settings, setting.asksPlaces = true →
    g.Placed (Handler.lastLimit settings) context host

theorem welcomes_set_iff (g : Registry σ) (name : String) (pattern : Pattern)
    (run : Request → σ → Outcome × σ) (settings : List Handler.Setting) (context : Context)
    (host : σ) :
    g.Welcomes ((Handler.ofPattern name pattern run).set settings) context host ↔
      g.Meets settings context host := by
  generalize hmade : (Handler.ofPattern name pattern run).set settings = made
  have honline : made.requiresOnline = settings.any Handler.Setting.asksOnline := by
    rw [← hmade, Handler.set_requiresOnline]
    rfl
  have hrelational : made.relational = settings.any Handler.Setting.asksRelation := by
    rw [← hmade, Handler.set_relational]
    rfl
  have hplaces : made.isUnconstrained = !settings.any Handler.Setting.asksPlaces := by
    rw [← hmade, Handler.set_isUnconstrained]
    rfl
  have hlimit : made.maxDistance = Handler.lastLimit settings := by
    rw [← hmade, Handler.set_maxDistance]
    exact Option.or_none
  constructor
  · intro hw
    refine ⟨fun setting hs hasks => hw.online ?_, fun setting hs hasks => hw.relation ?_,
      fun setting hs hasks => hlimit ▸ hw.places ?_ ?_⟩
    · exact honline ▸ List.any_eq_true.mpr ⟨setting, hs, hasks⟩
    · exact hrelational ▸ List.any_eq_true.mpr ⟨setting, hs, hasks⟩
    · exact hrelational ▸ List.any_eq_true.mpr
        ⟨setting, hs, Handler.Setting.asksRelation_of_asksPlaces hasks⟩
    · rw [hplaces, List.any_eq_true.mpr ⟨setting, hs, hasks⟩]
      rfl
  · intro hm
    refine ⟨fun h => ?_, fun h => ?_, fun _ h => ?_⟩
    · obtain ⟨setting, hs, hasks⟩ := List.any_eq_true.mp (honline ▸ h)
      exact hm.online setting hs hasks
    · obtain ⟨setting, hs, hasks⟩ := List.any_eq_true.mp (hrelational ▸ h)
      exact hm.relation setting hs hasks
    · have hany : settings.any Handler.Setting.asksPlaces = true := by simpa [hplaces] using h
      obtain ⟨setting, hs, hasks⟩ := List.any_eq_true.mp hany
      exact hlimit ▸ hm.places setting hs hasks

/-- A chosen handler runs if all that its settings ask for is there, and only then. -/
theorem answer_gated {g : Registry σ} (hg : g.Calm) {expansion identifier name : String}
    {pattern : Pattern} {run : Request → σ → Outcome × σ} {settings : List Handler.Setting}
    {argument : Option String}
    (hchoose : g.choose expansion identifier =
      some ((Handler.ofPattern name pattern run).set settings, argument))
    (context : Context) (host : σ) :
    (g.Meets settings context host → ∃ request host',
      request = ⟨Text.foldCase name, identifier, argument, context⟩ ∧
      g.answer expansion identifier context host =
        ⟨.ok (Answer.ofOption (run request host').1.value?), (run request host').2,
          .handlerCalled request :: (run request host').1.faults request.expansion⟩) ∧
    (¬ g.Meets settings context host → ∃ host',
      g.answer expansion identifier context host = ⟨.ok .empty, host', []⟩) := by
  obtain ⟨admitted, host', hadmits, hiff⟩ := admits_welcomes hg
    ((Handler.ofPattern name pattern run).set settings) context host
  rw [welcomes_set_iff] at hiff
  simp only [answer, hchoose, Exec.bind_apply, hadmits, Report.after_nil]
  constructor
  · intro hm
    refine ⟨_, host', rfl, ?_⟩
    rw [hiff.mpr hm, if_pos rfl, Handler.call_apply, Handler.set_run, Handler.set_expansion]
    rfl
  · intro hm
    have hno : admitted = false := by simpa using mt hiff.mp hm
    exact ⟨host', by rw [hno]; rfl⟩

end Registry

/-- Two subjects at a distance of five, and all others far away. -/
def whereabouts (whom : Subject) : Location :=
  if whom = ⟨1⟩ then ⟨"w", 0, 0, 0⟩ else if whom = ⟨2⟩ then ⟨"w", 3, 0, 4⟩ else ⟨"w", 0, 30, 0⟩

/-- A handler for a viewer near the target whose distance was set twice. -/
def nearby : Registry Unit :=
  (Registry.single ((Handler.ofPattern "a" .any fun _ host => (.value "near", host)).set
    [.within 1, .forOnline, .ttl .second, .within 5])).withLocator fun whom host =>
      (.found (whereabouts whom), host)

/-- It runs at a distance of five, but neither for a viewer who is farther away nor for a subject
that looks at nobody. -/
theorem nearby_gated :
    nearby.Calm ∧
    (∃ h, nearby.choose "a" "b" = some (h, none)) ∧
    (∃ host', nearby.answer "a" "b" (.ofRelation ⟨1⟩ ⟨2⟩) () = ⟨.ok (.value "near"), host',
      [.handlerCalled ⟨"a", "b", none, .ofRelation ⟨1⟩ ⟨2⟩⟩]⟩) ∧
    (∃ host', nearby.answer "a" "b" (.ofRelation ⟨3⟩ ⟨2⟩) () = ⟨.ok .empty, host', []⟩) ∧
    ∃ host', nearby.answer "a" "b" (.ofSubject ⟨1⟩) () = ⟨.ok .empty, host', []⟩ := by
  have hcalm : nearby.Calm := by
    intro locator hl whom host message
    obtain rfl := Option.some.inj hl
    simp
  have hchoose : nearby.choose "a" "b" = some ((Handler.ofPattern "a" .any fun _ host =>
      (.value "near", host)).set [.within 1, .forOnline, .ttl .second, .within 5], none) := by
    with_unfolding_all rfl
  refine ⟨hcalm, ⟨_, hchoose⟩, ?_, ?_, ?_⟩
  · obtain ⟨request, host', rfl, hanswer⟩ :=
      (Registry.answer_gated hcalm hchoose (.ofRelation ⟨1⟩ ⟨2⟩) ()).1 (by
        refine ⟨fun _ _ _ => rfl, fun _ _ _ => ⟨_, _, rfl, rfl⟩, fun _ _ _ => ?_⟩
        refine ⟨_, _, _, _, _, rfl, rfl, rfl, rfl, rfl, rfl, ?_⟩
        rintro limit hlimit
        obtain rfl := Option.some.inj hlimit
        refine ⟨_, rfl, ?_, ?_, ?_⟩ <;> decide +kernel)
    have hname : Text.foldCase "a" = "a" := by decide +kernel
    rw [hname] at hanswer
    exact ⟨host', hanswer⟩
  · refine (Registry.answer_gated hcalm hchoose (.ofRelation ⟨3⟩ ⟨2⟩) ()).2 fun hm => ?_
    have hfar : ((whereabouts ⟨3⟩).distance? (whereabouts ⟨2⟩)).all (fun d => !decide (d ≤ 5)) =
        true := by decide +kernel
    have hplaced := hm.places (.within 5) (by simp) rfl
    obtain ⟨a, b, ha, hb, -, hnear⟩ := (Registry.placed_iff rfl rfl _ _).mp hplaced
    obtain rfl := Sighting.found.inj ha
    obtain rfl := Sighting.found.inj hb
    obtain ⟨d, hd, -, -, hle⟩ := hnear 5 rfl
    rw [hd] at hfar
    simp [hle] at hfar
  · exact (Registry.answer_gated hcalm hchoose (.ofSubject ⟨1⟩) ()).2 fun hm => by
      obtain ⟨viewer, target, -, hsecondary⟩ := hm.relation (.within 1) (by simp) rfl
      cases hsecondary

end Placeholder
