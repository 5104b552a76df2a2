import Placeholder.Context.Draft
import Mathlib.Data.List.Induction

/-!
# Which contexts there are

A context is made outright, or by finishing a draft, and others are made of it by adding data, by
looking at a target or by looking away. In whatever way, there is nobody online and no target
without a subject; and whatever keeps to that can be made, without a draft too. Of a draft the last
word on each part counts. It can be finished exactly if what counts keeps to the rule, and the
context has the parts that count, whichever parts were spoken of first.
-/
namespace Placeholder

theorem Table.insert_of_notMem {κ β : Type} [DecidableEq κ] {k : κ} {v : β}
    {entries : List (κ × β)} (h : (((k, v) :: entries).map Prod.fst).Nodup) :
    (Table.mk entries (List.nodup_cons.mp h).2).insert k v = ⟨(k, v) :: entries, h⟩ := by
  have hfresh : entries.filter (fun entry => !decide (entry.1 = k)) = entries := by
    refine List.filter_eq_self.mpr fun entry hentry => ?_
    have hne : entry.1 ≠ k := by
      rintro rfl
      exact (List.nodup_cons.mp h).1 (List.mem_map.mpr ⟨entry, hentry, rfl⟩)
    simpa using hne
  simp only [insert, erase, filter, hfresh]

namespace Context

/-- What could be said of a context, whether there can be such a context or not. -/
structure Parts where
  primary : Option Subject
  online : Bool
  secondary : Option Subject
  data : String → Option Json

/-- Without a subject there is no target, and nobody is online. -/
def Parts.Consistent (parts : Parts) : Prop :=
  (parts.secondary.isSome = true → parts.primary.isSome = true) ∧
    (parts.online = true → parts.primary.isSome = true)

def parts (c : Context) : Parts := ⟨c.primary, c.online, c.secondary, c.data?⟩

theorem consistent_parts (c : Context) : c.parts.Consistent :=
  ⟨c.primary_of_secondary, c.primary_of_online⟩

theorem isRelational_iff (c : Context) : c.isRelational = true ↔ c.relation.isSome = true := by
  have hviewer := c.primary_of_secondary
  unfold isRelational relation
  cases hp : c.primary <;> cases hs : c.secondary <;> simp_all

/-! ## Contexts made of others -/

/-- What is done to a context to make another one of it. -/
inductive Change where
  | data (key : String) (value : Json)
  | target (whom : Subject)
  | noTarget

namespace Change

def apply (c : Context) : Change → Except Error Context
  | data key value => .ok (c.withData key value)
  | target whom => c.withTarget whom
  | noTarget => .ok c.withoutTarget

/-- The same done to the parts alone, whether a context can have them or not. -/
def edit (parts : Parts) : Change → Parts
  | data key value =>
    { parts with data := fun asked => if asked = key then some value else parts.data asked }
  | target whom => { parts with secondary := some whom }
  | noTarget => { parts with secondary := none }

/-- A change goes through exactly if something consistent comes out. -/
theorem exists_apply_iff (c : Context) (change : Change) :
    (∃ d, change.apply c = .ok d) ↔ (change.edit c.parts).Consistent := by
  have hc := c.consistent_parts
  cases change with
  | data key value => exact ⟨fun _ => hc, fun _ => ⟨_, rfl⟩⟩
  | noTarget => exact ⟨fun _ => ⟨by simp [edit], hc.2⟩, fun _ => ⟨_, rfl⟩⟩
  | target whom =>
      have htarget : (∃ d, c.withTarget whom = .ok d) ↔ c.primary.isSome = true := by
        unfold withTarget
        split_ifs with h <;> simp [h]
      exact htarget.trans ⟨fun h => ⟨fun _ => h, fun _ => h⟩, fun h => h.1 rfl⟩

theorem parts_of_apply {c d : Context} {change : Change} (h : change.apply c = .ok d) :
    d.parts = change.edit c.parts := by
  cases change with
  | data key value =>
      cases h
      simp only [parts, edit, Parts.mk.injEq, withData, true_and]
      funext asked
      exact Table.find?_insert _ _ _ _
  | noTarget =>
      cases h
      rfl
  | target whom =>
      rw [apply, withTarget] at h
      split_ifs at h
      cases h
      rfl

end Change

/-- A context that is made of one of the first ones, by some changes. -/
inductive Made (first : Context → Prop) : Context → Prop
  | first {c : Context} : first c → Made first c
  | change {c d : Context} (change : Change) : Made first c → change.apply c = .ok d → Made first d

/-! ## Contexts without drafts -/

/-- A context that is made outright. -/
inductive Plain : Context → Prop
  | empty : Plain .empty
  | ofSubject (subject : Subject) : Plain (.ofSubject subject)
  | ofOffline (subject : Subject) : Plain (.ofOffline subject)
  | ofRelation (viewer target : Subject) : Plain (.ofRelation viewer target)

/-- Data are added one by one, the last of the table first. -/
theorem Made.data {first : Context → Prop} {c : Context} (h : Made first c) (hnone : c.data = .empty)
    (data : Table String Json) : Made first { c with data := data } := by
  obtain ⟨entries, hnodup⟩ := data
  induction entries with
  | nil =>
      have hsame : { c with data := ⟨[], hnodup⟩ } = c := by
        cases c
        cases hnone
        rfl
      exact hsame ▸ h
  | cons entry entries ih =>
      obtain ⟨key, value⟩ := entry
      refine (ih (List.nodup_cons.mp hnodup).2).change (.data key value) ?_
      rw [Change.apply, withData, Table.insert_of_notMem hnodup]

/-- Whatever is a context can be made without a draft. -/
theorem made_plain (c : Context) : Made Plain c := by
  obtain ⟨primary, online, secondary, data, honline, hsecondary⟩ := c
  cases primary with
  | none =>
      obtain rfl : online = false := by simpa using honline
      obtain rfl : secondary = none := by simpa using hsecondary
      exact (Made.first Plain.empty).data rfl data
  | some subject =>
      have halone : Made Plain ⟨some subject, online, none, data, by simp, by simp⟩ := by
        cases online with
        | true => exact (Made.first (Plain.ofSubject subject)).data rfl data
        | false => exact (Made.first (Plain.ofOffline subject)).data rfl data
      cases secondary with
      | none => exact halone
      | some target => exact halone.change (.target target) (by simp [Change.apply, withTarget])

/-! ## Drafts -/

namespace Draft

/-- What can be said about a draft. -/
inductive Setting where
  | subject (whom : Subject)
  | online (mark : Bool)
  | target (whom : Subject)
  | data (key : String) (value : Json)

/-- The part that a setting is about. -/
inductive Setting.Kind where
  | subject | online | target | data
  deriving DecidableEq

namespace Setting

def kind : Setting → Kind
  | subject _ => .subject
  | online _ => .online
  | target _ => .target
  | data _ _ => .data

def apply (d : Draft) : Setting → Draft
  | subject whom => d.withSubject whom
  | online mark => d.withOnline mark
  | target whom => d.withTarget whom
  | data key value => d.withData key value

def subject? : Setting → Option Subject
  | subject whom => some whom
  | online _ | target _ | data _ _ => none

def online? : Setting → Option Bool
  | online mark => some mark
  | subject _ | target _ | data _ _ => none

def target? : Setting → Option Subject
  | target whom => some whom
  | subject _ | online _ | data _ _ => none

def datum? (asked : String) : Setting → Option Json
  | data key value => if asked = key then some value else none
  | subject _ | online _ | target _ => none

end Setting

/-- The draft about which some things were said. -/
def ofSettings (settings : List Setting) : Draft := settings.foldl Setting.apply .empty

@[simp] theorem ofSettings_concat (settings : List Setting) (setting : Setting) :
    ofSettings (settings ++ [setting]) = setting.apply (ofSettings settings) := by
  simp [ofSettings]

/-- The last word on something. -/
def last {α : Type} (view : Setting → Option α) (settings : List Setting) : Option α :=
  (settings.filterMap view).getLast?

/-- What counts of some settings. A subject is online if nothing is said about it. -/
def effective (settings : List Setting) : Parts where
  primary := last Setting.subject? settings
  online := (last Setting.online? settings).getD (last Setting.subject? settings).isSome
  secondary := last Setting.target? settings
  data key := last (Setting.datum? key) settings

theorem part_ofSettings {α : Type} (part : Draft → Option α) (view : Setting → Option α)
    (hempty : part .empty = none)
    (hstep : ∀ d setting, part (Setting.apply d setting) = (view setting).or (part d))
    (settings : List Setting) : part (ofSettings settings) = last view settings := by
  induction settings using List.reverseRecOn with
  | nil => exact hempty
  | append_singleton settings setting ih =>
      rw [ofSettings_concat, hstep, ih]
      cases h : view setting <;> simp [last, h]

/-- What a draft amounts to. -/
def parts (d : Draft) : Parts where
  primary := d.primary
  online := d.online.getD d.primary.isSome
  secondary := d.secondary
  data := d.data.find?

theorem primary_ofSettings (settings : List Setting) :
    (ofSettings settings).primary = last Setting.subject? settings :=
  part_ofSettings primary _ rfl (fun _ setting => by cases setting <;> rfl) settings

theorem online_ofSettings (settings : List Setting) :
    (ofSettings settings).online = last Setting.online? settings :=
  part_ofSettings online _ rfl (fun _ setting => by cases setting <;> rfl) settings

theorem secondary_ofSettings (settings : List Setting) :
    (ofSettings settings).secondary = last Setting.target? settings :=
  part_ofSettings secondary _ rfl (fun _ setting => by cases setting <;> rfl) settings

theorem find?_ofSettings (settings : List Setting) (key : String) :
    (ofSettings settings).data.find? key = last (Setting.datum? key) settings := by
  refine part_ofSettings (fun d => d.data.find? key) _ rfl (fun d setting => ?_) settings
  cases setting with
  | data other value =>
      simp only [Setting.apply, withData, Table.find?_insert, Setting.datum?]
      split_ifs <;> rfl
  | subject | online | target => rfl

theorem parts_ofSettings (settings : List Setting) :
    (ofSettings settings).parts = effective settings := by
  simp only [parts, effective, primary_ofSettings, online_ofSettings, secondary_ofSettings,
    Parts.mk.injEq, true_and]
  exact funext (find?_ofSettings settings)

/-- A draft can be finished exactly if it amounts to something consistent. -/
theorem exists_build_iff (d : Draft) : (∃ context, d.build = .ok context) ↔ d.parts.Consistent := by
  obtain ⟨primary, online, secondary, data⟩ := d
  cases primary with
  | some subject => simp [build, parts, Parts.Consistent]
  | none => cases secondary <;> rcases online with _ | _ | _ <;>
      simp [build, parts, Parts.Consistent]

theorem parts_of_build {d : Draft} {context : Context} (h : d.build = .ok context) :
    context.parts = d.parts := by
  obtain ⟨primary, online, secondary, data⟩ := d
  cases primary with
  | some subject =>
      cases h
      rfl
  | none =>
      cases secondary with
      | some target => cases h
      | none =>
          rcases online with _ | _ | _ <;> cases h <;> rfl

theorem last_congr {α : Type} {view : Setting → Option α} {kind : Setting.Kind}
    {settings others : List Setting}
    (hview : ∀ setting, (view setting).isSome = true → setting.kind = kind)
    (h : settings.filter (·.kind = kind) = others.filter (·.kind = kind)) :
    last view settings = last view others := by
  have hfilter (all : List Setting) :
      (all.filter (·.kind = kind)).filterMap view = all.filterMap view := by
    rw [List.filterMap_filter]
    refine congrArg (List.filterMap · all) (funext fun setting => ?_)
    cases hsetting : view setting with
    | none => simp
    | some word => simp [hview setting (by simp [hsetting])]
  rw [last, last, ← hfilter settings, h, hfilter]

theorem data_ofSettings_filter (settings : List Setting) :
    (ofSettings (settings.filter (·.kind = .data))).data = (ofSettings settings).data := by
  induction settings using List.reverseRecOn with
  | nil => rfl
  | append_singleton settings setting ih =>
      rw [List.filter_append, ofSettings_concat]
      cases setting with
      | data key value =>
          rw [List.filter_cons_of_pos (by simp [Setting.kind]), List.filter_nil, ofSettings_concat]
          exact congrArg (·.insert key value) ih
      | subject | online | target =>
          rw [List.filter_cons_of_neg (by simp [Setting.kind]), List.filter_nil, List.append_nil]
          exact ih

/-- Settings of different kinds can be exchanged: a draft is told by what is said on each part. -/
theorem ofSettings_congr {settings others : List Setting}
    (h : ∀ kind : Setting.Kind, settings.filter (·.kind = kind) = others.filter (·.kind = kind)) :
    ofSettings settings = ofSettings others := by
  have hprimary : (ofSettings settings).primary = (ofSettings others).primary := by
    rw [primary_ofSettings, primary_ofSettings]
    exact last_congr (by rintro (_ | _ | _ | _) hword <;> first | rfl | cases hword) (h .subject)
  have honline : (ofSettings settings).online = (ofSettings others).online := by
    rw [online_ofSettings, online_ofSettings]
    exact last_congr (by rintro (_ | _ | _ | _) hword <;> first | rfl | cases hword) (h .online)
  have hsecondary : (ofSettings settings).secondary = (ofSettings others).secondary := by
    rw [secondary_ofSettings, secondary_ofSettings]
    exact last_congr (by rintro (_ | _ | _ | _) hword <;> first | rfl | cases hword) (h .target)
  have hdata : (ofSettings settings).data = (ofSettings others).data := by
    rw [← data_ofSettings_filter, h, data_ofSettings_filter]
  calc ofSettings settings
      = ⟨(ofSettings settings).primary, (ofSettings settings).online,
          (ofSettings settings).secondary, (ofSettings settings).data⟩ := rfl
    _ = ofSettings others := by rw [hprimary, honline, hsecondary, hdata]

end Draft

/-- A context that is made by finishing a draft. -/
def Drafted (c : Context) : Prop :=
  ∃ settings : List Draft.Setting, (Draft.ofSettings settings).build = .ok c

/-- The contexts are the consistent ones. However one is made, nobody is online and nobody is looked
at without a subject, it is relational exactly if it has a relation, and a change of it goes through
exactly if something consistent comes out. Whatever is consistent can be made, and without a draft.
A draft can be finished exactly if the last words on its parts are consistent; the context has these
parts; and it does not matter in which order different parts were spoken of. -/
theorem exactly_consistent :
    (∀ c, Made (fun first => Plain first ∨ Drafted first) c →
      c.parts.Consistent ∧ (c.isRelational = true ↔ c.relation.isSome = true) ∧
      ∀ change : Change, ((∃ d, change.apply c = .ok d) ↔ (change.edit c.parts).Consistent) ∧
        ∀ d, change.apply c = .ok d → d.parts = change.edit c.parts) ∧
    (∀ (primary : Option Subject) (online : Bool) (secondary : Option Subject)
      (data : Table String Json), Parts.Consistent ⟨primary, online, secondary, data.find?⟩ →
      ∃ c, Made Plain c ∧ c.primary = primary ∧ c.online = online ∧ c.secondary = secondary ∧
        c.data = data) ∧
    (∀ settings : List Draft.Setting,
      ((∃ c, (Draft.ofSettings settings).build = .ok c) ↔ (Draft.effective settings).Consistent) ∧
      ∀ c, (Draft.ofSettings settings).build = .ok c → c.parts = Draft.effective settings) ∧
    (∀ settings others : List Draft.Setting,
      (∀ kind : Draft.Setting.Kind,
        settings.filter (·.kind = kind) = others.filter (·.kind = kind)) →
      (Draft.ofSettings settings).build = (Draft.ofSettings others).build) := by
  refine ⟨fun c _ => ?_, ?_, fun settings => ?_, fun settings others h => ?_⟩
  · exact ⟨c.consistent_parts, c.isRelational_iff, fun change =>
      ⟨Change.exists_apply_iff c change, fun _ happly => Change.parts_of_apply happly⟩⟩
  · intro primary online secondary data h
    exact ⟨⟨primary, online, secondary, data, h.2, h.1⟩, made_plain _, rfl, rfl, rfl, rfl⟩
  · rw [← Draft.parts_ofSettings]
    exact ⟨Draft.exists_build_iff _, fun c hbuild => Draft.parts_of_build hbuild⟩
  · rw [Draft.ofSettings_congr h]

end Context
end Placeholder
