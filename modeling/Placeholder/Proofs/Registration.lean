import Mathlib.Data.List.Induction
import Mathlib.Data.String.Basic
import Placeholder.Proofs.Families
import Placeholder.Registry.Answering

/-!
# What a registry says is told by its history

A registry is changed by registering handlers, by taking out expansions, and by setting its time to
live and its locator. A handler is in use from its registration on, until another one of its pattern
is registered for its expansion or the expansion is taken out. The handlers in use are all that the
registry looks at: what it chooses, how many handlers and which expansions it has.
-/
namespace Placeholder

variable {σ : Type}

theorem Text.toLower_toLower (c : Char) : c.toLower.toLower = c.toLower := by
  have hlower : ∀ d : Char, ¬ (65 ≤ d.val ∧ d.val ≤ 90) → d.toLower = d := fun d hd => dif_neg hd
  by_cases hc : 65 ≤ c.val ∧ c.val ≤ 90
  · have hval : c.toLower.val = c.val + 32 := congrArg Char.val (dif_pos hc)
    apply hlower
    rw [hval]
    simp [UInt32.le_iff_toNat_le, UInt32.toNat_add] at hc ⊢
    omega
  · rw [hlower c hc, hlower c hc]

theorem Text.foldCase_foldCase (text : String) :
    Text.foldCase (Text.foldCase text) = Text.foldCase text := by
  apply String.toList_injective
  simp only [Text.toList_foldCase, List.map_map]
  exact List.map_congr_left fun c _ => Text.toLower_toLower c

/-- The ways in which handlers come about. -/
inductive Handler.Built : Handler σ → Prop
  | ofPattern (expansion : String) (pattern : Pattern) (run : Request → σ → Outcome × σ) :
      Built (.ofPattern expansion pattern run)
  | withTtl {h : Handler σ} (ttl : Ttl) : Built h → Built (h.withTtl ttl)
  | forRelation {h : Handler σ} : Built h → Built h.forRelation
  | forOnline {h : Handler σ} : Built h → Built h.forOnline
  | inSameWorld {h : Handler σ} : Built h → Built h.inSameWorld
  | within {h : Handler σ} (distance : Float) : Built h → Built (h.within distance)

theorem Handler.Built.foldCase_expansion {h : Handler σ} (hb : h.Built) :
    Text.foldCase h.expansion = h.expansion := by
  induction hb with
  | ofPattern expansion => exact Text.foldCase_foldCase expansion
  | withTtl _ _ ih | forRelation _ ih | forOnline _ ih | inSameWorld _ ih | within _ _ ih =>
      exact ih

namespace Registry

/-- Whatever can be done with a registry. -/
inductive Change (σ : Type) where
  | register (handler : Handler σ) (built : handler.Built)
  | unregister (expansion : String)
  | setDefaultTtl (ttl : Ttl)
  | setLocator (locator : Locator σ)

/-- The registry that a change leaves. A handler that is refused changes nothing. -/
def Change.apply (g : Registry σ) : Change σ → Registry σ
  | register handler _ =>
    match g.register handler with
    | .ok g' => g'
    | .error _ => g
  | unregister expansion => (g.unregister expansion).2
  | setDefaultTtl ttl => g.withDefaultTtl ttl
  | setLocator locator => g.withLocator locator

/-- The registry after some changes to an empty one. -/
def after (changes : List (Change σ)) : Registry σ := changes.foldl Change.apply .empty

@[simp] theorem after_concat (past : List (Change σ)) (change : Change σ) :
    after (past ++ [change]) = change.apply (after past) := by
  simp [after]

/-! ## What a history says -/

/-- What takes a handler out of use: another one of its pattern for its expansion, or that the
expansion is taken out. -/
inductive Change.Displaces (h : Handler σ) : Change σ → Prop
  | replaced {h' : Handler σ} {built : h'.Built} : h'.check = .ok () →
      Text.foldCase h'.expansion = Text.foldCase h.expansion → h'.pattern = h.pattern →
      Displaces h (.register h' built)
  | unregistered {expansion : String} :
      Text.foldCase expansion = Text.foldCase h.expansion →
      Displaces h (.unregister expansion)

/-- The change brings a handler into use. -/
inductive Change.Brings (h : Handler σ) : Change σ → Prop
  | registered (built : h.Built) : h.check = .ok () → Brings h (.register h built)

/-- A handler was registered and accepted, and nothing has taken it out of use since. -/
def InUse (changes : List (Change σ)) (h : Handler σ) : Prop :=
  ∃ older built newer, changes = older ++ .register h built :: newer ∧ h.check = .ok () ∧
    ∀ change ∈ newer, ¬ change.Displaces h

/-- What is in use for an expansion, under its pattern. -/
def FilesOf (changes : List (Change σ)) (expansion : String) (p : Pattern) (h : Handler σ) :
    Prop :=
  InUse changes h ∧ Text.foldCase h.expansion = Text.foldCase expansion ∧ h.pattern = p

variable {past : List (Change σ)} {change : Change σ} {h : Handler σ}

theorem InUse.built (hu : InUse past h) : h.Built := by
  obtain ⟨_, built, _⟩ := hu
  exact built

theorem inUse_concat_iff : InUse (past ++ [change]) h ↔
    change.Brings h ∨ (InUse past h ∧ ¬ change.Displaces h) := by
  constructor
  · intro hu
    obtain ⟨older, built, newer, he, hcheck, hspared⟩ := hu
    rcases newer.eq_nil_or_concat' with rfl | ⟨middle, last, rfl⟩
    · obtain ⟨-, hlast⟩ := List.append_inj' he rfl
      obtain rfl := List.singleton_inj.mp hlast
      exact .inl (.registered built hcheck)
    · have hsplit : past ++ [change] = (older ++ .register h built :: middle) ++ [last] := by
        simpa using he
      obtain ⟨rfl, hlast⟩ := List.append_inj' hsplit rfl
      obtain rfl := List.singleton_inj.mp hlast
      refine .inr ⟨⟨older, built, middle, rfl, hcheck, ?_⟩, hspared _ (by simp)⟩
      exact fun c hc => hspared c (List.mem_append_left _ hc)
  · intro hu
    rcases hu with ⟨built, hcheck⟩ | ⟨⟨older, built, newer, rfl, hcheck, hspared⟩, hlast⟩
    · exact ⟨past, built, [], rfl, hcheck, by simp⟩
    · refine ⟨older, built, newer ++ [change], by simp, hcheck, ?_⟩
      intro c hc
      rcases List.mem_append.mp hc with hc | hc
      · exact hspared c hc
      · rwa [List.mem_singleton.mp hc]

/-! ## What a registry holds -/

/-- What is filed under a pattern of an expansion. -/
def Files (g : Registry σ) (name : String) (p : Pattern) (h : Handler σ) : Prop :=
  ∃ family, g.families.find? name = some family ∧ family.Files p h

/-- Each family is in order and has a handler. -/
def Ordered (g : Registry σ) : Prop :=
  ∀ name family, g.families.find? name = some family → family.Ordered ∧ ∃ p h, family.Files p h

variable {g : Registry σ}

def withHandler (g : Registry σ) (h : Handler σ) : Registry σ :=
  let family := (g.families.find? h.expansion).getD .empty
  { g with families := g.families.insert h.expansion (family.insert h) }

theorem apply_register {built : h.Built} (hcheck : h.check = .ok ()) :
    (Change.register h built).apply g = g.withHandler h := by
  simp [Change.apply, register, hcheck, withHandler]

theorem apply_register_refused {built : h.Built} (hcheck : h.check ≠ .ok ()) :
    (Change.register h built).apply g = g := by
  cases hc : h.check with
  | ok => exact (hcheck hc).elim
  | error e => simp [Change.apply, register, hc]

theorem files_getD (g : Registry σ) (name : String) (p : Pattern) (h : Handler σ) :
    ((g.families.find? name).getD .empty).Files p h ↔ g.Files name p h := by
  unfold Files
  cases g.families.find? name with
  | some family => simp
  | none => cases p <;> simp [Family.Files, Family.empty]

theorem files_withHandler (g : Registry σ) (h : Handler σ) (name : String) (p : Pattern)
    (h' : Handler σ) : (g.withHandler h).Files name p h' ↔
      (name = h.expansion ∧ p = h.pattern ∧ h' = h) ∨
        (¬ (name = h.expansion ∧ p = h.pattern) ∧ g.Files name p h') := by
  by_cases hname : name = h.expansion
  · subst hname
    have hfind : (g.withHandler h).Files h.expansion p h' ↔
        (((g.families.find? h.expansion).getD .empty).insert h).Files p h' := by
      simp [Files, withHandler, Table.find?_insert]
    rw [hfind, Family.files_insert, files_getD]
    simp
  · simp [Files, withHandler, Table.find?_insert, hname]

theorem files_unregister (g : Registry σ) (expansion name : String) (p : Pattern)
    (h : Handler σ) : (g.unregister expansion).2.Files name p h ↔
      name ≠ Text.foldCase expansion ∧ g.Files name p h := by
  by_cases hname : name = Text.foldCase expansion
  · simp [Files, unregister, Table.find?_erase, hname]
  · simp [Files, unregister, Table.find?_erase, hname]

theorem Ordered.withHandler (hg : g.Ordered) (h : Handler σ) : (g.withHandler h).Ordered := by
  intro name family hfind
  simp only [Registry.withHandler, Table.find?_insert] at hfind
  split_ifs at hfind with hname
  · cases hfind
    refine ⟨?_, h.pattern, h, (Family.files_insert _ _ _ _).mpr (.inl ⟨rfl, rfl⟩)⟩
    cases hold : g.families.find? h.expansion with
    | none => exact Family.Ordered.empty.insert h
    | some old => exact (hg _ _ hold).1.insert h
  · exact hg name family hfind

theorem Ordered.unregister (hg : g.Ordered) (expansion : String) :
    (g.unregister expansion).2.Ordered := by
  intro name family hfind
  simp only [Registry.unregister, Table.find?_erase] at hfind
  split_ifs at hfind
  exact hg name family hfind

theorem Ordered.apply (hg : g.Ordered) (change : Change σ) : (change.apply g).Ordered := by
  cases change with
  | register h built =>
      by_cases hcheck : h.check = .ok ()
      · rw [apply_register hcheck]
        exact hg.withHandler h
      · rw [apply_register_refused hcheck]
        exact hg
  | unregister expansion => exact hg.unregister expansion
  | setDefaultTtl | setLocator => exact hg

/-- However a registry has come about, its families are in order. -/
theorem after_ordered (changes : List (Change σ)) : (after changes).Ordered := by
  induction changes using List.reverseRecOn with
  | nil =>
      intro name family hfind
      cases hfind
  | append_singleton past change ih =>
      rw [after_concat]
      exact ih.apply change

theorem files_apply_refused {h' : Handler σ} (built : h'.Built) (hcheck : h'.check ≠ .ok ())
    {name : String} {p : Pattern} :
    ((Change.register h' built).apply g).Files name p h ↔
      ((Change.register h' built).Brings h ∧ h.expansion = name ∧ h.pattern = p) ∨
        (g.Files name p h ∧ ¬ (Change.register h' built).Displaces h) := by
  rw [apply_register_refused hcheck]
  constructor
  · intro hfiles
    refine .inr ⟨hfiles, ?_⟩
    intro hdisplaces
    cases hdisplaces with
    | replaced hcheck' => exact hcheck hcheck'
  · intro hfiles
    rcases hfiles with ⟨hbrings, -⟩ | ⟨hfiles, -⟩
    · cases hbrings with
      | registered _ hcheck' => exact (hcheck hcheck').elim
    · exact hfiles

/-- Handlers are filed under what they say themselves. -/
def Filed (g : Registry σ) : Prop :=
  ∀ {name p h}, g.Files name p h → h.Built ∧ h.expansion = name ∧ h.pattern = p

section

variable (hg : g.Filed) {name : String} {p : Pattern}

include hg

/-- An accepted handler takes the place of what was filed under its expansion and pattern. -/
theorem files_apply_accepted {h' : Handler σ} (built : h'.Built) (hcheck : h'.check = .ok ()) :
    ((Change.register h' built).apply g).Files name p h ↔
      ((Change.register h' built).Brings h ∧ h.expansion = name ∧ h.pattern = p) ∨
        (g.Files name p h ∧ ¬ (Change.register h' built).Displaces h) := by
  rw [apply_register hcheck, files_withHandler]
  constructor
  · intro hfiles
    rcases hfiles with ⟨rfl, rfl, rfl⟩ | ⟨hother, hfiles⟩
    · exact .inl ⟨.registered built hcheck, rfl, rfl⟩
    · obtain ⟨hb, rfl, rfl⟩ := hg hfiles
      refine .inr ⟨hfiles, ?_⟩
      intro hdisplaces
      cases hdisplaces with
      | replaced _ he hp =>
          rw [built.foldCase_expansion, hb.foldCase_expansion] at he
          exact hother ⟨he.symm, hp.symm⟩
  · intro hfiles
    rcases hfiles with ⟨hbrings, rfl, rfl⟩ | ⟨hfiles, hspared⟩
    · cases hbrings
      exact .inl ⟨rfl, rfl, rfl⟩
    · obtain ⟨-, rfl, rfl⟩ := hg hfiles
      refine .inr ⟨?_, hfiles⟩
      intro hsame
      exact hspared (.replaced hcheck (congrArg _ hsame.1.symm) hsame.2.symm)

theorem files_apply_unregister (expansion : String) :
    ((Change.unregister expansion).apply g).Files name p h ↔
      g.Files name p h ∧ ¬ (Change.unregister expansion).Displaces h := by
  rw [Change.apply, files_unregister, and_comm]
  refine and_congr_right fun hfiles => ?_
  obtain ⟨hb, rfl, -⟩ := hg hfiles
  constructor
  · intro hother hdisplaces
    cases hdisplaces with
    | unregistered he => exact hother (hb.foldCase_expansion.symm.trans he.symm)
  · intro hspared he
    exact hspared (.unregistered (he.symm.trans hb.foldCase_expansion.symm))

/-- A change brings in what it registers, and leaves what it does not displace. -/
theorem files_apply_iff (change : Change σ) : (change.apply g).Files name p h ↔
    (change.Brings h ∧ h.expansion = name ∧ h.pattern = p) ∨
      (g.Files name p h ∧ ¬ change.Displaces h) := by
  cases change with
  | register h' built =>
      by_cases hcheck : h'.check = .ok ()
      · exact files_apply_accepted hg built hcheck
      · exact files_apply_refused built hcheck
  | unregister expansion =>
      rw [files_apply_unregister hg]
      exact (or_iff_right fun hbrings => nomatch hbrings.1).symm
  | setDefaultTtl | setLocator =>
      constructor
      · exact fun hfiles => .inr ⟨hfiles, fun hdisplaces => nomatch hdisplaces⟩
      · intro hfiles
        rcases hfiles with ⟨hbrings, -⟩ | ⟨hfiles, -⟩
        · cases hbrings
        · exact hfiles

end

/-- A registry holds what its history says is in use, and nothing else. -/
theorem files_after_iff (changes : List (Change σ)) (name : String) (p : Pattern)
    (h : Handler σ) : (after changes).Files name p h ↔
      InUse changes h ∧ h.expansion = name ∧ h.pattern = p := by
  induction changes using List.reverseRecOn generalizing name p h with
  | nil => simp [after, Files, empty, InUse]
  | append_singleton past change ih =>
      have hfiled : (after past).Filed := by
        intro name p h hfiles
        obtain ⟨hu, he⟩ := (ih name p h).mp hfiles
        exact ⟨hu.built, he⟩
      rw [after_concat, files_apply_iff hfiled, ih, inUse_concat_iff]
      tauto

/-! ## What a registry says -/

variable {changes : List (Change σ)} {expansion identifier : String} {argument : Option String}

theorem filesOf_iff {p : Pattern} : FilesOf changes expansion p h ↔
    (after changes).Files (Text.foldCase expansion) p h := by
  rw [files_after_iff, FilesOf]
  refine and_congr_right fun hu => ?_
  rw [hu.built.foldCase_expansion]

/-- The handler that is chosen is told by the handlers in use. -/
theorem choose_after_iff : (after changes).choose expansion identifier = some (h, argument) ↔
    Selects (FilesOf changes expansion) identifier h argument := by
  have hfiles : FilesOf changes expansion = (after changes).Files (Text.foldCase expansion) := by
    funext p h
    exact propext filesOf_iff
  rw [hfiles, choose]
  cases hfind : (after changes).families.find? (Text.foldCase expansion) with
  | none =>
      have hnone : ∀ p h, ¬ (after changes).Files (Text.foldCase expansion) p h := by
        simp [Files, hfind]
      simp only [reduceCtorEq, false_iff]
      intro hs
      obtain ⟨p, hp⟩ := hs.exists_files
      exact hnone p h hp
  | some family =>
      have hsame : (after changes).Files (Text.foldCase expansion) = family.Files := by
        funext p h
        simp [Files, hfind]
      rw [hsame]
      exact (after_ordered changes _ family hfind).1.choose_eq_some_iff

/-- All that a registry says of an identifier when a handler is chosen for it, or none. -/
def Shows (g : Registry σ) (expansion identifier : String) :
    Option (Handler σ × Option String) → Prop
  | some (h, argument) => g.contains expansion identifier = true ∧
      g.ttl expansion identifier = h.ttl.getD g.defaultTtl ∧
      g.isRelational expansion identifier = h.relational ∧
      ∀ context, g.answer expansion identifier context = do
        if ← g.admits h context then h.call ⟨h.expansion, identifier, argument, context⟩
        else return .empty
  | none => g.contains expansion identifier = false ∧
      g.ttl expansion identifier = g.defaultTtl ∧
      g.isRelational expansion identifier = false ∧
      ∀ context, g.answer expansion identifier context = pure .empty

/-- Whatever is asked of a registry, it looks at the same handler. -/
theorem shows_choose (g : Registry σ) (expansion identifier : String) :
    g.Shows expansion identifier (g.choose expansion identifier) := by
  have hcontains : g.contains expansion identifier = (g.choose expansion identifier).isSome := rfl
  unfold Shows ttl isRelational answer
  rw [hcontains]
  cases g.choose expansion identifier with
  | none => exact ⟨rfl, rfl, rfl, fun _ => rfl⟩
  | some chosen => exact ⟨rfl, rfl, rfl, fun _ => rfl⟩

/-! ## Numbers and names -/

def pairs (g : Registry σ) : List (String × Pattern) :=
  g.families.entries.flatMap fun entry => entry.2.patterns.map fun p => (entry.1, p)

theorem length_pairs (g : Registry σ) : g.pairs.length = g.size := by
  unfold pairs size
  induction g.families.entries with
  | nil => rfl
  | cons entry rest ih => simp [ih, Family.length_patterns]

theorem mem_pairs_iff {name : String} {p : Pattern} :
    (name, p) ∈ g.pairs ↔ ∃ h, g.Files name p h := by
  simp only [pairs, List.mem_flatMap, List.mem_map, Prod.mk.injEq, Files]
  constructor
  · intro hpair
    obtain ⟨⟨_, family⟩, hmem, _, hp, rfl, rfl⟩ := hpair
    obtain ⟨h, hh⟩ := Family.mem_patterns_iff.mp hp
    exact ⟨h, family, Table.find?_of_mem_entries hmem, hh⟩
  · intro hfiles
    obtain ⟨h, family, hfind, hh⟩ := hfiles
    exact ⟨(name, family), Table.mem_entries_of_find? hfind, p,
      Family.mem_patterns_iff.mpr ⟨h, hh⟩, rfl, rfl⟩

theorem Ordered.nodup_pairs (hg : g.Ordered) : g.pairs.Nodup := by
  refine List.nodup_flatMap.mpr ⟨?_, ?_⟩
  · intro entry hmem
    obtain ⟨name, family⟩ := entry
    have hf := (hg name family (Table.find?_of_mem_entries hmem)).1
    exact hf.nodup_patterns.map fun _ _ he => (Prod.mk.inj he).2
  · refine (List.pairwise_map.mp g.families.nodup_keys).imp ?_
    intro a b hne pair ha hb
    obtain ⟨_, -, rfl⟩ := List.mem_map.mp ha
    obtain ⟨_, -, he⟩ := List.mem_map.mp hb
    exact hne (Prod.mk.inj he).1.symm

theorem Ordered.mem_keys_iff (hg : g.Ordered) {name : String} :
    name ∈ g.families.keys ↔ ∃ p h, g.Files name p h := by
  rw [Table.mem_keys_iff]
  constructor
  · intro hname
    obtain ⟨family, hfind⟩ := hname
    obtain ⟨p, h, hh⟩ := (hg name family hfind).2
    exact ⟨p, h, family, hfind, hh⟩
  · intro hfiles
    obtain ⟨p, h, family, hfind, -⟩ := hfiles
    exact ⟨family, hfind⟩

theorem Ordered.isEmpty_iff (hg : g.Ordered) : g.isEmpty = true ↔ g.size = 0 := by
  have hempty : g.isEmpty = true ↔ g.families.keys = [] := by
    simp [isEmpty, Table.size, Table.keys]
  rw [hempty, ← length_pairs, List.length_eq_zero_iff, List.eq_nil_iff_forall_not_mem,
    List.eq_nil_iff_forall_not_mem]
  constructor
  · intro hnone pair hpair
    obtain ⟨name, p⟩ := pair
    exact hnone name (hg.mem_keys_iff.mpr ⟨p, mem_pairs_iff.mp hpair⟩)
  · intro hnone name hname
    obtain ⟨p, hp⟩ := hg.mem_keys_iff.mp hname
    exact hnone (name, p) (mem_pairs_iff.mpr hp)

theorem expansions_sorted (g : Registry σ) : g.expansions.Pairwise (· < ·) := by
  have hle : g.expansions.Pairwise (· ≤ ·) := by
    have hsorted := @List.pairwise_mergeSort String (fun a b => decide (a ≤ b))
      (by simpa using fun a b c => le_trans) (by simpa using le_total) g.families.keys
    simpa [expansions] using hsorted
  have hne : g.expansions.Nodup :=
    (List.mergeSort_perm _ _).nodup_iff.mpr g.families.nodup_keys
  exact (hle.and hne).imp fun h => lt_of_le_of_ne h.1 h.2

/-- What the history of a registry says of it. -/
structure ToldBy (changes : List (Change σ)) (g : Registry σ) : Prop where
  /-- The handler that is chosen for an identifier is the one that is selected among those in use
  for the expansion. -/
  choose : ∀ expansion identifier h argument,
    g.choose expansion identifier = some (h, argument) ↔
      Selects (FilesOf changes expansion) identifier h argument
  /-- Whatever is asked, this handler is looked at. -/
  shows : ∀ expansion identifier, g.Shows expansion identifier (g.choose expansion identifier)
  /-- A handler that is refused might as well not have been registered. -/
  refused : ∀ older h built newer, changes = older ++ .register h built :: newer →
    h.check ≠ .ok () → g = after (older ++ newer)
  /-- Handlers are counted by what they are in use for. -/
  size : ∃ pairs : Finset (String × Pattern), g.size = pairs.card ∧ ∀ name p, (name, p) ∈ pairs ↔
    ∃ h, InUse changes h ∧ Text.foldCase h.expansion = name ∧ h.pattern = p
  isEmpty : g.isEmpty = true ↔ g.size = 0
  sorted : g.expansions.Pairwise (· < ·)
  names : ∀ name, name ∈ g.expansions ↔ ∃ h, InUse changes h ∧ Text.foldCase h.expansion = name

/-- However a registry has come about, its history says which handlers it chooses, how many it has,
and which expansions. -/
theorem after_toldBy (changes : List (Change σ)) : ToldBy changes (after changes) := by
  have hordered := after_ordered changes
  have hfiles : ∀ name p h, (after changes).Files name p h ↔
      InUse changes h ∧ Text.foldCase h.expansion = name ∧ h.pattern = p := by
    intro name p h
    rw [files_after_iff]
    refine and_congr_right fun hu => ?_
    rw [hu.built.foldCase_expansion]
  refine ⟨fun _ _ _ _ => choose_after_iff, shows_choose _, ?_, ?_, hordered.isEmpty_iff,
    expansions_sorted _, ?_⟩
  · intro older h built newer hchanges hcheck
    subst hchanges
    simp only [after, List.foldl_append, List.foldl_cons, apply_register_refused hcheck]
  · refine ⟨(after changes).pairs.toFinset, ?_, ?_⟩
    · rw [List.toFinset_card_of_nodup hordered.nodup_pairs, length_pairs]
    · intro name p
      rw [List.mem_toFinset, mem_pairs_iff]
      exact exists_congr fun h => hfiles name p h
  · intro name
    rw [expansions, List.mem_mergeSort, hordered.mem_keys_iff]
    constructor
    · intro hname
      obtain ⟨p, h, hh⟩ := hname
      obtain ⟨hu, he, -⟩ := (hfiles name p h).mp hh
      exact ⟨h, hu, he⟩
    · intro hname
      obtain ⟨h, hu, he⟩ := hname
      exact ⟨h.pattern, h, (hfiles name _ h).mpr ⟨hu, he, rfl⟩⟩

end Registry
end Placeholder
