import Placeholder.Proofs.Registration
import Placeholder.Proofs.Spanning

/-!
# Which handlers can be asked for

A handler of one identifier is asked for by a token that spells its expansion and the identifier,
behind the mark if it is relational. What can name an expansion, what can delimit a token and how a
token is taken apart are three rules that do not quite fit together. A hyphen may delimit tokens and
may stand in the name of an expansion as well, and an expansion may have the name that the mark
spells. `Registry.addressed_iff` says that nothing else keeps a registered handler from being asked
for.
-/
namespace Placeholder

variable {σ : Type}

/-! ## Characters of names -/

theorem toNat_of_isNameChar {c : Char} (h : isNameChar c = true) :
    c.toNat = 45 ∨ (48 ≤ c.toNat ∧ c.toNat ≤ 57) ∨ (65 ≤ c.toNat ∧ c.toNat ≤ 90) ∨
      (97 ≤ c.toNat ∧ c.toNat ≤ 122) := by
  have hclass : ((decide ('A'.val ≤ c.val ∧ c.val ≤ 'Z'.val) ||
      decide ('a'.val ≤ c.val) && decide (c.val ≤ 'z'.val)) ||
        decide ('0'.val ≤ c.val) && decide (c.val ≤ '9'.val) || c == '-') = true := h
  simp only [Bool.or_eq_true, Bool.and_eq_true, decide_eq_true_eq, beq_iff_eq,
    UInt32.le_iff_toNat_le] at hclass
  have hval : c.toNat = c.val.toNat := rfl
  have hbounds : ('A'.val.toNat = 65 ∧ 'Z'.val.toNat = 90) ∧
      ('a'.val.toNat = 97 ∧ 'z'.val.toNat = 122) ∧ '0'.val.toNat = 48 ∧ '9'.val.toNat = 57 := by
    decide
  rcases hclass with hclass | rfl
  · omega
  · exact .inl rfl

theorem not_blank_of_isNameChar {c : Char} (h : isNameChar c = true) :
    Unicode.isWhitespace c = false ∧ Unicode.isControl c = false := by
  have hnat := toNat_of_isNameChar h
  simp only [Unicode.isWhitespace, Unicode.isControl, Unicode.whitespaceRanges,
    Unicode.controlRanges, Unicode.Ranges.has_cons, Unicode.Ranges.has_nil, Bool.or_eq_false_iff,
    Bool.and_eq_false_iff, decide_eq_false_iff_not, and_true]
  omega

theorem Delimiter.char_eq_hyphen {d : Delimiter} (h : isNameChar d.char = true) :
    d.char = '-' := by
  have hd := d.is_delimiter
  simp only [isDelimiter, Bool.not_eq_true', Bool.or_eq_false_iff] at hd
  obtain ⟨⟨⟨⟨halphabetic, hnumeric⟩, -⟩, -⟩, -⟩ := hd
  simp only [isNameChar, Char.isAlphanum, Bool.or_eq_true, beq_iff_eq] at h
  rcases h with (halpha | hdigit) | hhyphen
  · rw [Unicode.isAlphabetic_of_isAlpha halpha] at halphabetic
    cases halphabetic
  · rw [Unicode.isNumeric_of_isDigit hdigit] at hnumeric
    cases hnumeric
  · exact hhyphen

theorem Delimiter.isForeign_of_isNameChar {d : Delimiter} {c : Char} (hname : isNameChar c = true)
    (hhyphen : ¬ (d.char = '-' ∧ c = '-')) : Body.isForeign d.char c = false := by
  obtain ⟨hspace, hcontrol⟩ := not_blank_of_isNameChar hname
  have hne : c ≠ d.char := by
    intro hsame
    have hchar := Delimiter.char_eq_hyphen (hsame ▸ hname)
    exact hhyphen ⟨hchar, hsame.trans hchar⟩
  simp [Body.isForeign, hne, hspace, hcontrol]

theorem Delimiter.isForeign_of_mem_mark (d : Delimiter) :
    ∀ c ∈ Body.mark, Body.isForeign d.char c = false := by
  have hd := d.is_delimiter
  simp only [isDelimiter, Bool.not_eq_true', Bool.or_eq_false_iff, beq_eq_false_iff_ne] at hd
  have hunderscore : Body.isForeign d.char '_' = false := by
    have hblank : (Unicode.isWhitespace '_' || Unicode.isControl '_') = false := by decide
    simpa [Body.isForeign, hd.2.symm, Ne.symm] using hblank
  intro c hc
  by_cases hname : isNameChar c = true
  · exact isForeign_of_isNameChar hname fun h => by simp [Body.mark, h.2] at hc
  · obtain rfl : c = '_' := by
      revert hname
      simp only [Body.mark, List.mem_cons, List.not_mem_nil, or_false] at hc
      rcases hc with rfl | rfl | rfl | rfl <;> decide
    exact hunderscore

/-! ## Addresses -/

theorem Body.eq_of_spell_eq {b b' : Body} (hspell : b.spell = b'.spell)
    (hrelational : b.relational = b'.relational) (hidentifier : b.identifier = b'.identifier) :
    b = b' := by
  obtain ⟨relational, name, identifier⟩ := b
  obtain ⟨_, name', _⟩ := b'
  obtain rfl : relational = _ := hrelational
  obtain rfl : identifier = _ := hidentifier
  obtain rfl : name = name' := by simpa [spell] using hspell
  rfl

namespace Handler

variable {h : Handler σ} {d : Delimiter} {identifier : String}

theorem check_eq_ok_iff : h.check = .ok () ↔ h.expansion.toList ≠ [] ∧
    h.expansion.toList.all isNameChar = true ∧ h.pattern.isEmpty = false := by
  have hempty : h.expansion.isEmpty = true ↔ h.expansion.toList = [] := by simp
  unfold check
  split_ifs with hname hpattern
  · simp only [Bool.or_eq_true, hempty, Bool.not_eq_true'] at hname
    simp only [false_iff, not_and]
    intro hne hall
    rcases hname with hnil | hbad
    · exact (hne hnil).elim
    · rw [hall] at hbad
      cases hbad
  · simp [hpattern]
  · simp only [Bool.or_eq_true, hempty, Bool.not_eq_true', not_or, Bool.not_eq_false] at hname
    simpa [hname.1] using ⟨List.all_eq_true.mp hname.2, by simpa using hpattern⟩

/-- What a token for an identifier of the handler has between its delimiters. -/
def body (h : Handler σ) (identifier : String) : Body :=
  ⟨h.relational, h.expansion.toList, identifier.toList⟩

/-- The text that asks for an identifier of the handler: the expansion and the identifier with an
underscore between them, behind the mark if the handler is relational, and delimited. -/
def address (h : Handler σ) (d : Delimiter) (identifier : String) : String :=
  String.singleton d.char ++ (if h.relational then relationalMark else "") ++ h.expansion ++ "_" ++
    identifier ++ String.singleton d.char

/-- The token that the whole text should be. -/
def sought (h : Handler σ) (d : Delimiter) (identifier : String) : Token where
  start := 0
  stop := Text.byteLength (h.address d identifier).toList
  expansion := h.expansion
  identifier := identifier
  relational := h.relational

theorem toList_address :
    (h.address d identifier).toList = d.enclose (h.body identifier).spell := by
  cases hr : h.relational <;>
    simp [address, hr, Delimiter.enclose, Body.spell, body, Body.toList_relationalMark]

theorem sought_spans : (h.sought d identifier).Spans (h.address d identifier).toList := by
  simp only [sought, Token.Spans, and_self]

theorem sought_eq_ofBody (built : h.Built) : h.sought d identifier =
    Token.ofBody 0 (Text.byteLength (h.address d identifier).toList) (h.body identifier) := by
  simp [sought, Token.ofBody, body, built.foldCase_expansion]

/-- A handler can be asked for exactly if its body can be read. -/
theorem addressed_iff_readable (built : h.Built) :
    (d.tokens (h.address d identifier) = [h.sought d identifier] ∧
      d.token? (h.address d identifier) = some (h.sought d identifier)) ↔
    (h.body identifier).Readable d.char := by
  constructor
  · intro haddressed
    obtain ⟨_, b, hspell, hread, hsought⟩ :=
      Delimiter.tokens_eq_spanning_iff.mp ⟨haddressed.1, sought_spans⟩
    obtain ⟨hreadable, rfl⟩ := Body.read?_eq_some_iff.mp hread
    rw [toList_address] at hspell
    obtain ⟨-, -, -, hidentifier, hrelational⟩ := Token.mk.inj hsought
    have hbody : h.body identifier = b := by
      apply Body.eq_of_spell_eq (Delimiter.enclose_inj hspell) hrelational
      rw [body, hidentifier, String.toList_ofList]
    exact hbody ▸ hreadable
  · intro hreadable
    have hread : Body.read? d.char (h.body identifier).spell = some (h.body identifier) :=
      Body.read?_eq_some_iff.mpr ⟨hreadable, rfl⟩
    constructor
    · exact (Delimiter.tokens_eq_spanning_iff.mpr
        ⟨_, _, toList_address, hread, sought_eq_ofBody built⟩).1
    · exact Delimiter.token?_eq_some_iff.mpr
        ⟨_, sought_eq_ofBody built, .inr ⟨_, toList_address, hread⟩⟩

/-- Of what keeps a body from being read, a handler that has been accepted leaves two things. -/
theorem readable_iff (hcheck : h.check = .ok ()) (hpattern : h.pattern = .exact identifier)
    (hclear : ∀ c ∈ identifier.toList,
      c ≠ d.char ∧ Unicode.isWhitespace c = false ∧ Unicode.isControl c = false) :
    (h.body identifier).Readable d.char ↔
      ¬ (d.char = '-' ∧ '-' ∈ h.expansion.toList) ∧
        ¬ (h.relational = false ∧ h.expansion = "rel") := by
  obtain ⟨hexpansion, hall, hempty⟩ := check_eq_ok_iff.mp hcheck
  have hname := List.all_eq_true.mp hall
  have hrel : h.expansion.toList = ['r', 'e', 'l'] ↔ h.expansion = "rel" := by
    rw [← String.toList_inj]
    rfl
  constructor
  · intro hreadable
    constructor
    · rintro ⟨hchar, hmem⟩
      have hforeign := hreadable.no_foreign '-' (by simp [Body.spell, body, hmem])
      simp [Body.isForeign, hchar] at hforeign
    · rintro ⟨hplain, hnamed⟩
      exact hreadable.unmarked hplain (hrel.mpr hnamed)
  · rintro ⟨hhyphen, hmarked⟩
    refine ⟨hexpansion, hname, ?_, ?_, fun hplain hnamed => hmarked ⟨hplain, hrel.mp hnamed⟩⟩
    · rw [hpattern] at hempty
      simpa [Pattern.isEmpty, body] using hempty
    · intro c hc
      have hunderscore := d.isForeign_of_mem_mark '_' (by simp [Body.mark])
      simp only [Body.spell, body, List.mem_append, List.mem_cons] at hc
      rcases hc with hc | hc | rfl | hc
      · cases hr : h.relational with
        | true => exact d.isForeign_of_mem_mark c (by simpa [hr] using hc)
        | false => simp [hr] at hc
      · exact Delimiter.isForeign_of_isNameChar (hname c hc) fun hboth =>
          hhyphen ⟨hboth.1, hboth.2 ▸ hc⟩
      · exact hunderscore
      · obtain ⟨hne, hspace, hcontrol⟩ := hclear c hc
        simp [Body.isForeign, hne, hspace, hcontrol]

end Handler

namespace Registry

theorem register_eq_ok_iff {g g' : Registry σ} {h : Handler σ} :
    g.register h = .ok g' ↔ h.check = .ok () ∧ g.withHandler h = g' := by
  cases hcheck : h.check with
  | error e => simp [register, hcheck]
  | ok => simp [register, hcheck, withHandler]

/-- A handler that the registry takes for one identifier can be asked for, by a token that is the
whole text and means this handler and nothing else, with two exceptions: that the delimiter is a
hyphen and occurs in the expansion, and that the handler is plain and its expansion is called like
the mark. In both cases it cannot. -/
theorem addressed_iff {g g' : Registry σ} {h : Handler σ} (built : h.Built)
    (hregister : g.register h = .ok g') {identifier : String}
    (hpattern : h.pattern = .exact identifier) (d : Delimiter)
    (hclear : ∀ c ∈ identifier.toList,
      c ≠ d.char ∧ Unicode.isWhitespace c = false ∧ Unicode.isControl c = false) :
    (d.tokens (h.address d identifier) = [h.sought d identifier] ∧
      d.token? (h.address d identifier) = some (h.sought d identifier)) ↔
    ¬ (d.char = '-' ∧ '-' ∈ h.expansion.toList) ∧
      ¬ (h.relational = false ∧ h.expansion = "rel") := by
  obtain ⟨hcheck, -⟩ := register_eq_ok_iff.mp hregister
  rw [Handler.addressed_iff_readable built, Handler.readable_iff hcheck hpattern hclear]

def namesake : Handler Unit :=
  Handler.forRelation (.ofPattern "rel" (.exact "a_b") fun _ host => (.value "v", host))

/-- An expansion may be called like the mark, if its handler is relational. -/
theorem namesake_addressed :
    namesake.Built ∧ (∃ g', (empty : Registry Unit).register namesake = .ok g') ∧
      Delimiter.percent.tokens "%rel_rel_a_b%" = [⟨0, 13, "rel", "a_b", true⟩] ∧
      Delimiter.percent.token? "%rel_rel_a_b%" = some ⟨0, 13, "rel", "a_b", true⟩ := by
  have hbuilt : namesake.Built := .forRelation (.ofPattern _ _ _)
  have hregister : empty.register namesake = .ok (empty.withHandler namesake) :=
    register_eq_ok_iff.mpr ⟨Handler.check_eq_ok_iff.mpr (by decide +kernel), rfl⟩
  have hclear : ∀ c ∈ "a_b".toList,
      c ≠ '%' ∧ Unicode.isWhitespace c = false ∧ Unicode.isControl c = false := by
    have hall : "a_b".toList.all (fun c =>
        c ≠ '%' ∧ Unicode.isWhitespace c = false ∧ Unicode.isControl c = false) = true := by
      decide +kernel
    simpa using hall
  have haddressed := (addressed_iff hbuilt hregister rfl .percent hclear).mpr
    ⟨by decide, by decide⟩
  have haddress : namesake.address .percent "a_b" = "%rel_rel_a_b%" := by decide +kernel
  have hsought : namesake.sought .percent "a_b" = ⟨0, 13, "rel", "a_b", true⟩ := by
    decide +kernel
  rw [haddress, hsought] at haddressed
  exact ⟨hbuilt, ⟨_, hregister⟩, haddressed⟩

def hyphen : Delimiter := ⟨'-', by decide⟩

/-- A handler with a hyphen in the name of its expansion. -/
def hyphened : Handler Unit := .ofPattern "a-b" (.exact "x") fun _ host => (.value "v", host)

/-- Not every handler that the registry takes can be asked for. -/
theorem not_all_addressed :
    ¬ ∀ (d : Delimiter) (g g' : Registry Unit) (h : Handler Unit) (identifier : String), h.Built →
      g.register h = .ok g' → h.pattern = .exact identifier →
      (∀ c ∈ identifier.toList,
        c ≠ d.char ∧ Unicode.isWhitespace c = false ∧ Unicode.isControl c = false) →
      d.tokens (h.address d identifier) = [h.sought d identifier] ∧
        d.token? (h.address d identifier) = some (h.sought d identifier) := by
  intro hall
  have hregister : empty.register hyphened = .ok (empty.withHandler hyphened) :=
    register_eq_ok_iff.mpr ⟨Handler.check_eq_ok_iff.mpr (by decide +kernel), rfl⟩
  have hclear : ∀ c ∈ "x".toList,
      c ≠ '-' ∧ Unicode.isWhitespace c = false ∧ Unicode.isControl c = false := by
    have hall : "x".toList.all (fun c =>
        c ≠ '-' ∧ Unicode.isWhitespace c = false ∧ Unicode.isControl c = false) = true := by
      decide +kernel
    simpa using hall
  have haddressed :=
    (hall hyphen empty _ hyphened "x" (.ofPattern _ _ _) hregister rfl hclear).2
  revert haddressed
  decide +kernel

end Registry
end Placeholder
