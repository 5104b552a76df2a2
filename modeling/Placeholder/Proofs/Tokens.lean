import Placeholder.Token.Scan
import Mathlib.Tactic.SplitIfs

/-!
# What a token asks for

A body is read exactly if it is spelled as an optional mark, a name, an underscore and an
identifier, so the parts of a token can be recovered from its spelling. They can almost be
recovered from its key. The one exception is a plain token of the expansion `rel`: the mark is only
known in lower case while names are folded, so a name such as `REL` is read as a name and ends up
spelling the mark in the key. `Token.key_eq_iff` says that nothing else can go wrong.
-/
namespace Placeholder

namespace Body

def mark : List Char := ['r', 'e', 'l', '_']

theorem toList_relationalMark : relationalMark.toList = mark := by decide

/-- The characters that a body is written with. -/
def spell (b : Body) : List Char :=
  (if b.relational then mark else []) ++ (b.name ++ '_' :: b.identifier)

/-- The bodies that can be read. A plain body has no name that would be taken for the mark. -/
structure Readable (delimiter : Char) (b : Body) : Prop where
  name_ne_nil : b.name ≠ []
  name_chars : ∀ c ∈ b.name, isNameChar c = true
  identifier_ne_nil : b.identifier ≠ []
  no_foreign : ∀ c ∈ b.spell, isForeign delimiter c = false
  unmarked : b.relational = false → b.name ≠ ['r', 'e', 'l']

theorem not_isNameChar_underscore : isNameChar '_' = false := by decide

theorem Readable.underscore_not_mem {delimiter : Char} {b : Body} (h : b.Readable delimiter) :
    '_' ∉ b.name := by
  intro hu
  have hn := h.name_chars '_' hu
  rw [not_isNameChar_underscore] at hn
  cases hn

theorem append_underscore_inj {a b x y : List Char} (ha : '_' ∉ a) (hb : '_' ∉ b)
    (h : a ++ '_' :: x = b ++ '_' :: y) : a = b ∧ x = y := by
  induction a generalizing b with
  | nil =>
      cases b with
      | nil => exact ⟨rfl, by simpa using h⟩
      | cons c b =>
          obtain ⟨hc, -⟩ : '_' = c ∧ x = b ++ '_' :: y := by simpa using h
          exact (hb (hc ▸ List.mem_cons_self)).elim
  | cons c a ih =>
      cases b with
      | nil =>
          obtain ⟨hc, -⟩ : c = '_' ∧ a ++ '_' :: x = y := by simpa using h
          exact (ha (hc ▸ List.mem_cons_self)).elim
      | cons e b =>
          obtain ⟨rfl, ht⟩ : c = e ∧ a ++ '_' :: x = b ++ '_' :: y := by simpa using h
          obtain ⟨rfl, hx⟩ := ih (fun hm => ha (by simp [hm])) (fun hm => hb (by simp [hm])) ht
          exact ⟨rfl, hx⟩

theorem cutName_eq_some_iff {text name identifier : List Char} :
    cutName text = some (name, identifier) ↔
      text = name ++ '_' :: identifier ∧ '_' ∉ name := by
  induction text generalizing name with
  | nil => simp [cutName]
  | cons c rest ih =>
      by_cases hc : c = '_'
      · subst hc
        constructor
        · intro h
          obtain ⟨rfl, rfl⟩ : [] = name ∧ rest = identifier := by simpa [cutName] using h
          simp
        · intro h
          obtain ⟨h, hn⟩ := h
          obtain ⟨rfl, rfl⟩ := append_underscore_inj (a := []) (by simp) hn h
          simp [cutName]
      · simp only [cutName, if_neg hc, Option.map_eq_some_iff, Prod.exists]
        constructor
        · intro h
          obtain ⟨front, back, hcut, hparts⟩ := h
          obtain ⟨rfl, rfl⟩ : c :: front = name ∧ back = identifier := by simpa using hparts
          obtain ⟨rfl, hf⟩ := ih.mp hcut
          exact ⟨rfl, by simp [hf, Ne.symm hc]⟩
        · intro h
          obtain ⟨h, hn⟩ := h
          cases name with
          | nil => exact (hc (by simpa using congrArg List.head? h)).elim
          | cons e front =>
              obtain ⟨rfl, hrest⟩ : c = e ∧ rest = front ++ '_' :: identifier := by simpa using h
              exact ⟨front, identifier, ih.mpr ⟨hrest, fun hm => hn (by simp [hm])⟩, rfl⟩

theorem stripMark_mark (rest : List Char) : stripMark (mark ++ rest) = (true, rest) := rfl

theorem stripMark_unmarked {text : List Char} (h : ¬ mark <+: text) :
    stripMark text = (false, text) := by
  unfold stripMark
  split
  · rename_i rest
    exact (h ⟨rest, rfl⟩).elim
  · rfl

theorem mark_prefix_iff {name identifier : List Char} (hn : '_' ∉ name) :
    mark <+: name ++ '_' :: identifier ↔ name = ['r', 'e', 'l'] := by
  constructor
  · intro h
    obtain ⟨rest, h⟩ := h
    exact (append_underscore_inj (a := ['r', 'e', 'l']) (by decide) hn h).1.symm
  · intro h
    subst h
    exact ⟨identifier, rfl⟩

theorem parts_iff {text name identifier : List Char} {relational : Bool} :
    (∃ rest, stripMark text = (relational, rest) ∧ cutName rest = some (name, identifier)) ↔
      text = spell ⟨relational, name, identifier⟩ ∧ '_' ∉ name ∧
        (relational = false → name ≠ ['r', 'e', 'l']) := by
  by_cases hm : mark <+: text
  · obtain ⟨rest, rfl⟩ := hm
    cases relational with
    | true => simp [stripMark_mark, cutName_eq_some_iff, spell]
    | false =>
        refine ⟨by simp [stripMark_mark], ?_⟩
        intro h
        obtain ⟨h, hn, hne⟩ := h
        exact (hne rfl ((mark_prefix_iff hn).mp (h ▸ List.prefix_append mark rest))).elim
  · cases relational with
    | true =>
        refine ⟨by simp [stripMark_unmarked hm], ?_⟩
        intro h
        obtain ⟨rfl, -⟩ := h
        exact (hm (List.prefix_append _ _)).elim
    | false =>
        rw [stripMark_unmarked hm]
        constructor
        · intro h
          obtain ⟨rest, hrest, hcut⟩ := h
          obtain rfl : text = rest := by simpa using hrest
          obtain ⟨rfl, hn⟩ := cutName_eq_some_iff.mp hcut
          exact ⟨rfl, hn, fun _ he => hm ((mark_prefix_iff hn).mpr he)⟩
        · intro h
          obtain ⟨rfl, hn, -⟩ := h
          exact ⟨_, rfl, cutName_eq_some_iff.mpr ⟨rfl, hn⟩⟩

/-- Reading undoes spelling, and nothing else can be read. -/
theorem read?_eq_some_iff {delimiter : Char} {text : List Char} {b : Body} :
    read? delimiter text = some b ↔ b.Readable delimiter ∧ text = b.spell := by
  unfold read?
  constructor
  · intro h
    split_ifs at h with hf
    split at h
    · cases h
    · rename_i name identifier hcut
      split_ifs at h with hbad
      cases h
      obtain ⟨hspell, -, hne⟩ := parts_iff.mp ⟨_, rfl, hcut⟩
      simp only [Bool.or_eq_true, not_or, List.isEmpty_iff, Bool.not_eq_true',
        Bool.not_eq_false, List.all_eq_true] at hbad
      refine ⟨⟨hbad.1.1, hbad.2, hbad.1.2, fun c hc => ?_, hne⟩, hspell⟩
      simp only [List.any_eq_true, not_exists, not_and, Bool.not_eq_true] at hf
      exact hf c (hspell ▸ hc)
  · intro h
    obtain ⟨h, rfl⟩ := h
    obtain ⟨rest, hstrip, hcut⟩ := parts_iff.mpr ⟨rfl, h.underscore_not_mem, h.unmarked⟩
    have hf : b.spell.any (isForeign delimiter) = false := by simpa using h.no_foreign
    have hall : b.name.all isNameChar = true := by simpa using h.name_chars
    have hname : b.name.isEmpty = false := by simpa using h.name_ne_nil
    have hid : b.identifier.isEmpty = false := by simpa using h.identifier_ne_nil
    rw [hf, hstrip]
    simp [hcut, hall, hname, hid]

end Body

namespace Token

/-- The tokens that a delimiter lets be read, inside a text or as a whole text. -/
def ReadBy (d : Delimiter) (t : Token) : Prop :=
  ∃ text, t ∈ d.tokens text ∨ d.token? text = some t

/-- The tokens that can be read with some delimiter. There are no others. -/
def Parsed (t : Token) : Prop := ∃ d, t.ReadBy d

/-- Two tokens ask for the same, wherever they stand. -/
def Alike (t u : Token) : Prop :=
  t.expansion = u.expansion ∧ t.identifier = u.identifier ∧ t.relational = u.relational

/-- A plain token of the expansion `rel` writes out the other, relational token. -/
def SpellsMarkOf (t u : Token) : Prop :=
  t.relational = false ∧ u.relational = true ∧ t.expansion = "rel" ∧
    t.identifier = u.expansion ++ "_" ++ u.identifier

end Token

theorem Delimiter.mem_scan {d : Delimiter} {position : Nat} {candidate : Option Candidate}
    {text : List Char} {t : Token} (ht : t ∈ d.scan position candidate text) :
    ∃ (start stop : Nat) (b : Body), b.Readable d.char ∧ t = Token.ofBody start stop b := by
  induction text generalizing position candidate with
  | nil => cases candidate <;> simp [scan] at ht
  | cons c rest ih =>
      cases candidate with
      | none =>
          simp only [scan] at ht
          split_ifs at ht
          · exact ih ht
          · exact ih ht
      | some k =>
          simp only [scan] at ht
          split_ifs at ht with hc
          · split at ht
            · rename_i b hb
              rcases List.mem_cons.mp ht with rfl | ht
              · exact ⟨k.start, _, b, (Body.read?_eq_some_iff.mp hb).1, rfl⟩
              · exact ih ht
            · exact ih ht
          · exact ih ht

theorem Token.ReadBy.exists_body {d : Delimiter} {t : Token} (h : t.ReadBy d) :
    ∃ (start stop : Nat) (b : Body), b.Readable d.char ∧ t = Token.ofBody start stop b := by
  obtain ⟨text, ht | ht⟩ := h
  · exact Delimiter.mem_scan ht
  · obtain ⟨b, hb, rfl⟩ := Option.map_eq_some_iff.mp ht
    exact ⟨_, _, b, (Body.read?_eq_some_iff.mp hb).1, rfl⟩

theorem Text.toLower_eq_underscore {c : Char} (h : c.toLower = '_') : c = '_' := by
  unfold Char.toLower at h
  split at h
  · rename_i hc
    have hv := congrArg Char.toNat h
    have hn : c.toNat = c.val.toNat := rfl
    have hl : 65 ≤ c.val.toNat := UInt32.le_iff_toNat_le.mp hc.1
    have hr : c.val.toNat ≤ 90 := UInt32.le_iff_toNat_le.mp hc.2
    simp at hv
    omega
  · exact h

namespace Token

theorem Parsed.underscore_not_mem {t : Token} (h : t.Parsed) : '_' ∉ t.expansion.toList := by
  obtain ⟨d, hd⟩ := h
  obtain ⟨start, stop, b, hb, rfl⟩ := hd.exists_body
  intro hu
  simp only [ofBody, Text.toList_foldCase, String.toList_ofList, List.mem_map] at hu
  obtain ⟨c, hc, hl⟩ := hu
  exact hb.underscore_not_mem (Text.toLower_eq_underscore hl ▸ hc)

theorem toList_key (t : Token) :
    t.key.toList = (if t.relational then Body.mark else []) ++
      (t.expansion.toList ++ '_' :: t.identifier.toList) := by
  cases h : t.relational <;> simp [key, h, Body.toList_relationalMark]

theorem Alike.key_eq {t u : Token} (h : t.Alike u) : t.key = u.key := by
  obtain ⟨he, hi, hr⟩ := h
  rw [key, key, he, hi, hr]

theorem SpellsMarkOf.key_eq {t u : Token} (h : t.SpellsMarkOf u) : t.key = u.key := by
  obtain ⟨ht, hu, he, hi⟩ := h
  apply String.toList_injective
  rw [toList_key, toList_key, ht, hu, he, hi]
  simp [Body.mark]

theorem Parsed.alike_of_key_eq {t u : Token} (ht : t.Parsed) (hu : u.Parsed)
    (hr : t.relational = u.relational) (h : t.key = u.key) : t.Alike u := by
  have hl := congrArg String.toList h
  rw [toList_key, toList_key, hr, List.append_cancel_left_eq] at hl
  obtain ⟨he, hi⟩ := Body.append_underscore_inj ht.underscore_not_mem hu.underscore_not_mem hl
  exact ⟨String.toList_injective he, String.toList_injective hi, hr⟩

/-- A plain token can only have the key of a relational one by spelling its mark. -/
theorem Parsed.spellsMarkOf_of_key_eq {t u : Token} (ht : t.Parsed)
    (hp : t.relational = false) (hr : u.relational = true) (h : t.key = u.key) :
    t.SpellsMarkOf u := by
  have hl := congrArg String.toList h
  rw [toList_key, toList_key, hp, hr] at hl
  obtain ⟨he, hi⟩ := Body.append_underscore_inj (b := ['r', 'e', 'l'])
    (y := u.expansion.toList ++ '_' :: u.identifier.toList) ht.underscore_not_mem (by decide)
    (by simpa [Body.mark] using hl)
  refine ⟨hp, hr, String.toList_injective (by simpa using he), String.toList_injective ?_⟩
  simpa using hi

/-- The exact meaning of equal keys. Whatever delimiters the two tokens were read with, they ask for
the same, or one of them is a plain token of the expansion `rel` that spells the other's mark. -/
theorem key_eq_iff_alike_or_spellsMark {t u : Token} (ht : t.Parsed) (hu : u.Parsed) :
    t.key = u.key ↔ t.Alike u ∨ t.SpellsMarkOf u ∨ u.SpellsMarkOf t := by
  constructor
  · intro h
    cases hr : t.relational <;> cases hs : u.relational
    · exact .inl (ht.alike_of_key_eq hu (hr.trans hs.symm) h)
    · exact .inr (.inl (ht.spellsMarkOf_of_key_eq hr hs h))
    · exact .inr (.inr (hu.spellsMarkOf_of_key_eq hs hr h.symm))
    · exact .inl (ht.alike_of_key_eq hu (hr.trans hs.symm) h)
  · intro h
    rcases h with h | h | h
    · exact h.key_eq
    · exact h.key_eq
    · exact h.key_eq.symm

def shouted : Token := ⟨0, 9, "rel", "a_b", false⟩

def marked : Token := ⟨0, 9, "a", "b", true⟩

theorem shouted_readBy : shouted.ReadBy .percent := ⟨"%REL_a_b%", .inr (by decide +kernel)⟩

theorem marked_readBy : marked.ReadBy .percent := ⟨"%rel_a_b%", .inr (by decide +kernel)⟩

theorem shouted_key_eq_marked_key :
    shouted.Parsed ∧ marked.Parsed ∧ shouted.key = marked.key :=
  ⟨⟨_, shouted_readBy⟩, ⟨_, marked_readBy⟩,
    (key_eq_iff_alike_or_spellsMark ⟨_, shouted_readBy⟩ ⟨_, marked_readBy⟩).mpr
      (.inr (.inl ⟨rfl, rfl, rfl, by decide⟩))⟩

/-- Equal keys do not always ask for the same. -/
theorem not_alike_of_key_eq :
    ¬ ∀ (d : Delimiter) (t u : Token), t.ReadBy d → u.ReadBy d → t.key = u.key → t.Alike u := by
  intro h
  have ha := h .percent shouted marked shouted_readBy marked_readBy (by decide)
  exact absurd ha.2.2 (by decide)

end Token
end Placeholder
