import Mathlib.Data.Finset.Card
import Mathlib.Data.List.Basic
import Placeholder.Registry.Basic

/-!
# Which handler of a family is chosen

A family files each of its handlers under a pattern. The fronts are kept with the longest first, so
the first one that an identifier begins with is the longest of them: two fronts of one length that
an identifier begins with are the same. What is chosen depends on nothing but what is filed under
which pattern.
-/
namespace Placeholder

variable {σ : Type}

theorem Table.mem_keys_iff {κ β : Type} [DecidableEq κ] {t : Table κ β} {k : κ} :
    k ∈ t.keys ↔ ∃ v, t.find? k = some v := by
  simp [Table.keys, Table.find?_eq_some_iff]

/-- Which handler answers an identifier, of those that are filed under patterns, and the argument
that it is called with: the handler of exactly this identifier, else the one of the longest front
that the identifier begins with, called with what is beyond, else the one for anything. -/
inductive Selects (files : Pattern → Handler σ → Prop) (identifier : String) :
    Handler σ → Option String → Prop
  | exact {h : Handler σ} : files (.exact identifier) h → Selects files identifier h none
  | leading {h : Handler σ} {front argument : String} :
      (∀ h', ¬ files (.exact identifier) h') → files (.leading front) h →
      identifier = front ++ argument →
      (∀ front' argument' h', files (.leading front') h' → identifier = front' ++ argument' →
        front'.length ≤ front.length) →
      Selects files identifier h (some argument)
  | any {h : Handler σ} : (∀ h', ¬ files (.exact identifier) h') →
      (∀ front argument h', files (.leading front) h' → identifier ≠ front ++ argument) →
      files .any h → Selects files identifier h none

theorem Text.exists_append_of_append_eq {front front' back back' : String}
    (h : front ++ back = front' ++ back') (hle : front.length ≤ front'.length) :
    ∃ more, front' = front ++ more ∧ back = more ++ back' := by
  have hlists : front.toList ++ back.toList = front'.toList ++ back'.toList := by
    simpa using congrArg String.toList h
  rcases List.append_eq_append_iff.mp hlists with ⟨more, hfront, hback⟩ | ⟨more, hfront, hback⟩
  · refine ⟨String.ofList more, ?_, ?_⟩ <;> apply String.toList_injective <;> simpa
  · have hlength : front.length = front'.length + more.length := by
      rw [← String.length_toList, ← String.length_toList, hfront, List.length_append]
    obtain rfl : more = [] := List.eq_nil_of_length_eq_zero (by omega)
    refine ⟨"", ?_, ?_⟩ <;> apply String.toList_injective <;> simp_all

namespace Selects

variable {files : Pattern → Handler σ → Prop} {identifier : String} {h h' : Handler σ}
  {argument argument' : Option String}

theorem unique (hfiles : ∀ p h h', files p h → files p h' → h = h')
    (hs : Selects files identifier h argument) (hs' : Selects files identifier h' argument') :
    h = h' ∧ argument = argument' := by
  cases hs with
  | exact hexact =>
      cases hs' with
      | exact hexact' => exact ⟨hfiles _ _ _ hexact hexact', rfl⟩
      | leading hnone | any hnone => exact (hnone h hexact).elim
  | @leading front _ hnone hfront he hlongest =>
      cases hs' with
      | exact hexact => exact (hnone _ hexact).elim
      | @leading front' _ _ hfront' he' hlongest' =>
          obtain ⟨more, hmore, hback⟩ := Text.exists_append_of_append_eq (he.symm.trans he')
            (hlongest' _ _ _ hfront he)
          have hempty : more = "" := by
            have hlength := hlongest _ _ _ hfront' he'
            rw [hmore, String.length_append] at hlength
            exact String.length_eq_zero_iff.mp (by omega)
          subst hempty
          rw [String.append_empty] at hmore
          rw [String.empty_append] at hback
          subst hmore
          exact ⟨hfiles _ _ _ hfront hfront', congrArg some hback⟩
      | any _ hnofront => exact (hnofront _ _ _ hfront he).elim
  | any hnone hnofront hany =>
      cases hs' with
      | exact hexact => exact (hnone _ hexact).elim
      | leading _ hfront he => exact (hnofront _ _ _ hfront he).elim
      | any _ _ hany' => exact ⟨hfiles _ _ _ hany hany', rfl⟩

theorem exists_files (hs : Selects files identifier h argument) : ∃ p, files p h := by
  cases hs with
  | exact hexact => exact ⟨_, hexact⟩
  | leading _ hfront => exact ⟨_, hfront⟩
  | any _ _ hany => exact ⟨_, hany⟩

end Selects

namespace Family

/-- What is filed under a pattern. -/
def Files (family : Family σ) : Pattern → Handler σ → Prop
  | .exact identifier, h => family.exact.find? identifier = some h
  | .leading front, h => (front, h) ∈ family.leading
  | .any, h => family.any = some h

/-- The fronts differ, and the longest is first. Lengths are in bytes here. -/
structure Ordered (family : Family σ) : Prop where
  distinct : (family.leading.map Prod.fst).Nodup
  falling : family.leading.Pairwise fun a b => b.1.utf8ByteSize ≤ a.1.utf8ByteSize

/-! ## Fronts -/

theorem beyond?_eq_some_iff {front text argument : String} :
    beyond? front text = some argument ↔ text = front ++ argument := by
  unfold beyond?
  constructor
  · intro h
    split_ifs at h with hprefix
    obtain ⟨back, hback⟩ := List.isPrefixOf_iff_prefix.mp hprefix
    rw [← hback, List.drop_left] at h
    obtain rfl := Option.some.inj h
    apply String.toList_injective
    simpa using hback.symm
  · intro h
    subst h
    simp

variable {handlers : List (String × Handler σ)} {identifier front : String} {h : Handler σ}

theorem chooseLeading_eq_none_iff : chooseLeading identifier handlers = none ↔
    ∀ front h, (front, h) ∈ handlers → ∀ argument, identifier ≠ front ++ argument := by
  induction handlers with
  | nil => simp [chooseLeading]
  | cons entry rest ih =>
      obtain ⟨front, h⟩ := entry
      unfold chooseLeading
      cases hb : beyond? front identifier with
      | some argument =>
          have he := beyond?_eq_some_iff.mp hb
          simp only [reduceCtorEq, false_iff]
          intro hall
          exact hall front h List.mem_cons_self argument he
      | none =>
          have hno : ∀ argument, identifier ≠ front ++ argument := by
            intro argument he
            rw [beyond?_eq_some_iff.mpr he] at hb
            cases hb
          simp only [ih]
          constructor
          · intro hall front' h' hmem
            rcases List.mem_cons.mp hmem with he | hmem
            · cases he
              exact hno
            · exact hall front' h' hmem
          · intro hall front' h' hmem
            exact hall front' h' (List.mem_cons_of_mem _ hmem)

theorem chooseLeading_eq_some {argument : String}
    (hfalling : handlers.Pairwise fun a b => b.1.utf8ByteSize ≤ a.1.utf8ByteSize)
    (hchoose : chooseLeading identifier handlers = some (h, argument)) :
    ∃ front, (front, h) ∈ handlers ∧ identifier = front ++ argument ∧
      ∀ front' argument' h', (front', h') ∈ handlers → identifier = front' ++ argument' →
        front'.length ≤ front.length := by
  induction handlers with
  | nil => cases hchoose
  | cons entry rest ih =>
      obtain ⟨front, first⟩ := entry
      obtain ⟨hle, hrest⟩ := List.pairwise_cons.mp hfalling
      unfold chooseLeading at hchoose
      cases hb : beyond? front identifier with
      | some beyond =>
          rw [hb] at hchoose
          cases hchoose
          have he := beyond?_eq_some_iff.mp hb
          refine ⟨front, List.mem_cons_self, he, ?_⟩
          intro front' argument' h' hmem he'
          rcases List.mem_cons.mp hmem with hsame | hmem
          · cases hsame
            exact Nat.le_refl _
          · by_contra hlonger
            obtain ⟨more, rfl, -⟩ := Text.exists_append_of_append_eq (he.symm.trans he')
              (by omega)
            have hbytes := hle _ hmem
            simp only [String.utf8ByteSize_append] at hbytes
            have hempty : more = "" := String.utf8ByteSize_eq_zero_iff.mp (by omega)
            simp [hempty] at hlonger
      | none =>
          rw [hb] at hchoose
          obtain ⟨front', hmem, he, hlongest⟩ := ih hrest hchoose
          refine ⟨front', List.mem_cons_of_mem _ hmem, he, ?_⟩
          intro other argument' h' hother he'
          rcases List.mem_cons.mp hother with hsame | hother
          · cases hsame
            rw [beyond?_eq_some_iff.mpr he'] at hb
            cases hb
          · exact hlongest other argument' h' hother he'

/-! ## The choice -/

variable {family : Family σ}

theorem Ordered.files_unique (hf : family.Ordered) :
    ∀ p h h', family.Files p h → family.Files p h' → h = h' := by
  intro p h h' hh hh'
  cases p with
  | exact | any => exact Option.some.inj (hh.symm.trans hh')
  | leading front =>
      exact congrArg Prod.snd (List.inj_on_of_nodup_map hf.distinct hh hh' rfl)

theorem Ordered.choose_selects (hf : family.Ordered) {argument : Option String}
    (hchoose : family.choose identifier = some (h, argument)) :
    Selects family.Files identifier h argument := by
  unfold choose at hchoose
  cases hexact : family.exact.find? identifier with
  | some found =>
      rw [hexact] at hchoose
      cases hchoose
      exact .exact hexact
  | none =>
      have hnone : ∀ h', ¬ family.Files (.exact identifier) h' := by simp [Files, hexact]
      rw [hexact] at hchoose
      cases hleading : chooseLeading identifier family.leading with
      | some found =>
          obtain ⟨found, beyond⟩ := found
          rw [hleading] at hchoose
          cases hchoose
          obtain ⟨front, hmem, he, hlongest⟩ := chooseLeading_eq_some hf.falling hleading
          exact .leading hnone hmem he hlongest
      | none =>
          rw [hleading] at hchoose
          obtain ⟨found, hany, he⟩ := Option.map_eq_some_iff.mp hchoose
          cases he
          have hno := chooseLeading_eq_none_iff.mp hleading
          exact .any hnone (fun front argument h' hmem => hno front h' hmem argument) hany

theorem not_selects_of_choose (hchoose : family.choose identifier = none)
    (argument : Option String) : ¬ Selects family.Files identifier h argument := by
  unfold choose at hchoose
  cases hexact : family.exact.find? identifier with
  | some found => simp [hexact] at hchoose
  | none =>
      rw [hexact] at hchoose
      cases hleading : chooseLeading identifier family.leading with
      | some found => simp [hleading] at hchoose
      | none =>
          rw [hleading] at hchoose
          intro hs
          cases hs with
          | exact hfound =>
              rw [Files, hexact] at hfound
              cases hfound
          | leading _ hmem he => exact chooseLeading_eq_none_iff.mp hleading _ _ hmem _ he
          | any _ _ hany =>
              rw [Files] at hany
              simp [hany] at hchoose

/-- What is chosen is told by what is filed. -/
theorem Ordered.choose_eq_some_iff (hf : family.Ordered) {argument : Option String} :
    family.choose identifier = some (h, argument) ↔
      Selects family.Files identifier h argument := by
  constructor
  · exact hf.choose_selects
  · intro hs
    cases hchoose : family.choose identifier with
    | none => exact (not_selects_of_choose hchoose argument hs).elim
    | some chosen =>
        obtain ⟨h', argument'⟩ := chosen
        obtain ⟨rfl, rfl⟩ := hs.unique hf.files_unique (hf.choose_selects hchoose)
        rfl

/-! ## A handler more -/

theorem insertLeading_perm (front : String) (h : Handler σ) (handlers : List (String × Handler σ)) :
    (insertLeading front h handlers).Perm ((front, h) :: handlers) := by
  induction handlers with
  | nil => exact .refl _
  | cons entry rest ih =>
      unfold insertLeading
      split_ifs
      · exact (ih.cons entry).trans (.swap _ _ _)
      · exact .refl _

theorem insertLeading_falling
    (hfalling : handlers.Pairwise fun a b => b.1.utf8ByteSize ≤ a.1.utf8ByteSize) :
    (insertLeading front h handlers).Pairwise fun a b => b.1.utf8ByteSize ≤ a.1.utf8ByteSize := by
  induction handlers with
  | nil => exact List.pairwise_singleton _ _
  | cons entry rest ih =>
      obtain ⟨hle, hrest⟩ := List.pairwise_cons.mp hfalling
      unfold insertLeading
      split_ifs with hfront
      · refine List.pairwise_cons.mpr ⟨?_, ih hrest⟩
        intro other hother
        rcases List.mem_cons.mp ((insertLeading_perm front h rest).mem_iff.mp hother) with he | hmem
        · rwa [he]
        · exact hle other hmem
      · refine List.pairwise_cons.mpr ⟨?_, hfalling⟩
        intro other hother
        rcases List.mem_cons.mp hother with rfl | hmem
        · exact (not_le.mp hfront).le
        · exact (hle other hmem).trans (not_le.mp hfront).le

theorem mem_eraseLeading {entry : String × Handler σ} :
    entry ∈ eraseLeading front handlers ↔ entry ∈ handlers ∧ entry.1 ≠ front := by
  simp [eraseLeading]

theorem Ordered.empty : (Family.empty : Family σ).Ordered := ⟨List.nodup_nil, .nil⟩

theorem Ordered.insert (hf : family.Ordered) (h : Handler σ) : (family.insert h).Ordered := by
  unfold Family.insert
  cases h.pattern with
  | exact | any => exact ⟨hf.distinct, hf.falling⟩
  | leading front =>
      constructor
      · have hperm := (insertLeading_perm front h (eraseLeading front family.leading)).map Prod.fst
        refine hperm.nodup_iff.mpr (List.nodup_cons.mpr ⟨?_, ?_⟩)
        · intro hmem
          obtain ⟨entry, hentry, he⟩ := List.mem_map.mp hmem
          exact (mem_eraseLeading.mp hentry).2 he
        · exact hf.distinct.sublist (List.filter_sublist.map Prod.fst)
      · exact insertLeading_falling (hf.falling.sublist List.filter_sublist)

theorem files_insert (family : Family σ) (h : Handler σ) (p : Pattern) (h' : Handler σ) :
    (family.insert h).Files p h' ↔
      (p = h.pattern ∧ h' = h) ∨ (p ≠ h.pattern ∧ family.Files p h') := by
  unfold Family.insert
  cases hpattern : h.pattern with
  | exact identifier =>
      cases p with
      | exact other =>
          simp only [Files, Table.find?_insert, ne_eq, Pattern.exact.injEq]
          split_ifs with he
          · simp [he, eq_comm]
          · simp [he]
      | leading | any => simp [Files]
  | leading front =>
      cases p with
      | leading other =>
          simp only [Files, (insertLeading_perm front h _).mem_iff, List.mem_cons, Prod.mk.injEq,
            mem_eraseLeading, ne_eq, Pattern.leading.injEq]
          tauto
      | exact | any => simp [Files]
  | any =>
      cases p with
      | any => simp [Files, eq_comm]
      | exact | leading => simp [Files]

/-! ## Patterns in use -/

def patterns (family : Family σ) : List Pattern :=
  family.exact.keys.map Pattern.exact ++
    (family.leading.map fun entry => Pattern.leading entry.1) ++
    (if family.any.isSome then [Pattern.any] else [])

theorem length_patterns (family : Family σ) : family.patterns.length = family.size := by
  unfold patterns size Table.keys Table.size
  split_ifs <;> simp [Nat.add_assoc]

theorem mem_patterns_iff {p : Pattern} : p ∈ family.patterns ↔ ∃ h, family.Files p h := by
  cases p with
  | exact identifier =>
      simp only [patterns, Files, ← Table.mem_keys_iff]
      split_ifs <;> simp
  | leading front =>
      simp only [patterns, Files]
      split_ifs <;> simp
  | any => simp [patterns, Files, Option.isSome_iff_exists]

theorem Ordered.nodup_patterns (hf : family.Ordered) : family.patterns.Nodup := by
  have hexact : (family.exact.keys.map Pattern.exact).Nodup :=
    family.exact.nodup_keys.map fun _ _ he => Pattern.exact.inj he
  have hleading : (family.leading.map fun entry => Pattern.leading entry.1).Nodup := by
    have hmap : ((family.leading.map Prod.fst).map Pattern.leading).Nodup :=
      hf.distinct.map fun _ _ he => Pattern.leading.inj he
    rwa [List.map_map] at hmap
  have hany : (if family.any.isSome then [Pattern.any] else []).Nodup := by
    split_ifs <;> simp
  refine List.nodup_append.mpr ⟨List.nodup_append.mpr ⟨hexact, hleading, ?_⟩, hany, ?_⟩
  · intro p hp q hq
    obtain ⟨_, -, rfl⟩ := List.mem_map.mp hp
    obtain ⟨_, -, rfl⟩ := List.mem_map.mp hq
    exact nofun
  · intro p hp q hq
    obtain rfl : q = .any := by
      split_ifs at hq
      · exact List.mem_singleton.mp hq
      · cases hq
    rcases List.mem_append.mp hp with hp | hp <;> obtain ⟨_, -, rfl⟩ := List.mem_map.mp hp <;>
      exact nofun

end Family
end Placeholder
