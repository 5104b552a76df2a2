import Placeholder.Proofs.Layout
import Placeholder.Proofs.Tokens
import Mathlib.Data.List.Forall2

/-!
# The grammar of tokens in a text

Number the delimiters of a text from left to right. A token stands between two consecutive ones, if
the body between them is well formed and the first of them does not close another token already. A
scan finds exactly these tokens, in their order.
-/
namespace Placeholder

open Text

/-- How a text between two delimiters is made up. The mark comes off if it is there, and what is
left splits at its first underscore. -/
structure Body.Formed (text : List Char) (b : Body) : Prop where
  no_space : ∀ c ∈ text, Unicode.isWhitespace c = false
  no_control : ∀ c ∈ text, Unicode.isControl c = false
  marked_iff : b.relational = true ↔ mark <+: text
  spelled : text = (if b.relational then mark else []) ++ (b.name ++ '_' :: b.identifier)
  first_underscore : '_' ∉ b.name
  name_ne_nil : b.name ≠ []
  name_chars : ∀ c ∈ b.name, isNameChar c = true
  identifier_ne_nil : b.identifier ≠ []

/-- Reading takes what is well formed and nothing else. -/
theorem Body.read?_eq_some_iff_formed {delimiter : Char} {text : List Char} {b : Body}
    (hclear : delimiter ∉ text) : read? delimiter text = some b ↔ Formed text b := by
  rw [read?_eq_some_iff]
  constructor
  · intro h
    obtain ⟨h, rfl⟩ := h
    have hforeign : ∀ c ∈ b.spell,
        Unicode.isWhitespace c = false ∧ Unicode.isControl c = false := by
      intro c hc
      have := h.no_foreign c hc
      simp only [isForeign, Bool.or_eq_false_iff] at this
      exact ⟨this.1.2, this.2⟩
    refine ⟨fun c hc => (hforeign c hc).1, fun c hc => (hforeign c hc).2, ?_, rfl,
      h.underscore_not_mem, h.name_ne_nil, h.name_chars, h.identifier_ne_nil⟩
    cases hr : b.relational with
    | true => simp [spell, hr]
    | false =>
        have hname := h.unmarked hr
        simp [spell, hr, mark_prefix_iff h.underscore_not_mem, hname]
  · intro h
    have hspell : text = b.spell := h.spelled
    refine ⟨⟨h.name_ne_nil, h.name_chars, h.identifier_ne_nil, ?_, ?_⟩, hspell⟩
    · intro c hc
      rw [← hspell] at hc
      have hne : c ≠ delimiter := fun he => hclear (he ▸ hc)
      simp [isForeign, hne, h.no_space c hc, h.no_control c hc]
    · intro hr hname
      have hmark : mark <+: text := by
        rw [h.spelled, hr]
        exact (mark_prefix_iff h.first_underscore).mpr hname
      rw [h.marked_iff.mpr hmark] at hr
      cases hr

/-- Two delimiters of a text with none between them. -/
structure Enclosed (d : Delimiter) (text : List Char) where
  front : List Char
  body : List Char
  back : List Char
  splits : text = front ++ d.char :: (body ++ d.char :: back)
  clear : d.char ∉ body

namespace Enclosed

variable {d : Delimiter} {text : List Char}

/-- The number of the first delimiter: how many stand before it. -/
def opening (p : Enclosed d text) : Nat := p.front.count d.char

def closing (p : Enclosed d text) : Nat := (p.front ++ d.char :: p.body).count d.char

def WellFormed (p : Enclosed d text) : Prop := ∃ b, Body.Formed p.body b

/-- The token stands from the first delimiter to behind the second one and asks for what is between
them. -/
structure Holds (p : Enclosed d text) (t : Token) : Prop where
  start_eq : t.start = byteLength p.front
  stop_eq : t.stop = byteLength (p.front ++ d.char :: (p.body ++ [d.char]))
  asks : ∃ b, Body.Formed p.body b ∧ t.expansion = foldCase (String.ofList b.name) ∧
    t.identifier = String.ofList b.identifier ∧ t.relational = b.relational

theorem closing_eq (p : Enclosed d text) : p.closing = p.opening + 1 := by
  simp [closing, opening, List.count_eq_zero_of_not_mem p.clear]

theorem opening_add_two_le (p : Enclosed d text) : p.opening + 2 ≤ text.count d.char := by
  have h := congrArg (List.count d.char) p.splits
  simp only [List.count_append, List.count_cons_self] at h
  simp only [opening]
  omega

theorem split_inj {c : Char} {a b x y : List Char} (h : a ++ c :: x = b ++ c :: y)
    (hcount : a.count c = b.count c) : a = b ∧ x = y := by
  induction a generalizing b with
  | nil =>
      cases b with
      | nil => exact ⟨rfl, by simpa using h⟩
      | cons e b =>
          obtain ⟨rfl, -⟩ : c = e ∧ x = b ++ c :: y := by simpa using h
          simp at hcount
  | cons e a ih =>
      cases b with
      | nil =>
          obtain ⟨rfl, -⟩ : e = c ∧ a ++ c :: x = y := by simpa using h
          simp at hcount
      | cons f b =>
          obtain ⟨rfl, ht⟩ : e = f ∧ a ++ c :: x = b ++ c :: y := by simpa using h
          have hrest : a.count c = b.count c := by
            simpa [List.count_cons] using hcount
          obtain ⟨rfl, hx⟩ := ih ht hrest
          exact ⟨rfl, hx⟩

theorem opening_inj {p q : Enclosed d text} (h : p.opening = q.opening) : p = q := by
  obtain ⟨front, body, back, hp, hclear⟩ := p
  obtain ⟨front', body', back', hq, hclear'⟩ := q
  obtain ⟨rfl, hrest⟩ := split_inj (hp.symm.trans hq) h
  have hnone : body.count d.char = body'.count d.char := by
    rw [List.count_eq_zero_of_not_mem hclear, List.count_eq_zero_of_not_mem hclear']
  obtain ⟨rfl, rfl⟩ := split_inj hrest hnone
  rfl

theorem holds_ofBody (p : Enclosed d text) {b : Body} (hb : Body.Formed p.body b) {stop : Nat}
    (hstop : stop = byteLength (p.front ++ d.char :: (p.body ++ [d.char]))) :
    p.Holds (Token.ofBody (byteLength p.front) stop b) :=
  ⟨rfl, hstop, b, hb, rfl, rfl, rfl⟩

end Enclosed

namespace Delimiter

variable {d : Delimiter} {text : List Char} {least : Nat} {tokens : List Token}

/-- The tokens are those of the grammar that open at a delimiter of a certain number or later. -/
def Finds (d : Delimiter) (text : List Char) (least : Nat) (tokens : List Token) : Prop :=
  ∃ chosen : List (Enclosed d text),
    List.Forall₂ Enclosed.Holds chosen tokens ∧
    chosen.Pairwise (fun p q => p.opening < q.opening) ∧
    (∀ p ∈ chosen, least ≤ p.opening) ∧
    ∀ p : Enclosed d text, least ≤ p.opening →
      (p ∈ chosen ↔ p.WellFormed ∧ ∀ q ∈ chosen, q.closing ≠ p.opening)

theorem Finds.nil (h : text.count d.char < least + 2) : d.Finds text least [] := by
  refine ⟨[], .nil, .nil, by simp, ?_⟩
  intro p hp
  have := p.opening_add_two_le
  omega

/-- A body that is not well formed makes no token, and the delimiter behind it may open the next. -/
theorem Finds.skip {p : Enclosed d text} (hp : p.opening = least) (hbad : ¬ p.WellFormed)
    (h : d.Finds text (least + 1) tokens) : d.Finds text least tokens := by
  obtain ⟨chosen, hholds, hsorted, hleast, hiff⟩ := h
  refine ⟨chosen, hholds, hsorted, fun q hq => Nat.le_of_succ_le (hleast q hq), ?_⟩
  intro q hq
  rcases Nat.eq_or_lt_of_le hq with hsame | hlater
  · obtain rfl := Enclosed.opening_inj (hp.trans hsame)
    constructor
    · intro hmem
      have := hleast p hmem
      omega
    · intro hformed
      exact (hbad hformed.1).elim
  · exact hiff q hlater

/-- A body that is well formed makes a token, and the delimiter behind it opens none. -/
theorem Finds.take {p : Enclosed d text} (hp : p.opening = least) (hformed : p.WellFormed)
    {t : Token} (ht : p.Holds t) (h : d.Finds text (least + 2) tokens) :
    d.Finds text least (t :: tokens) := by
  obtain ⟨chosen, hholds, hsorted, hleast, hiff⟩ := h
  have hbehind : ∀ q ∈ chosen, p.opening + 2 ≤ q.opening := fun q hq => hp ▸ hleast q hq
  refine ⟨p :: chosen, .cons ht hholds, .cons ?_ hsorted, ?_, ?_⟩
  · intro q hq
    have := hbehind q hq
    omega
  · intro q hq
    rcases List.mem_cons.mp hq with rfl | hq
    · exact Nat.le_of_eq hp.symm
    · have := hbehind q hq
      omega
  · intro q hq
    rcases Nat.lt_or_ge q.opening (least + 2) with hnear | hfar
    · rcases Nat.eq_or_lt_of_le hq with hsame | hnext
      · obtain rfl := Enclosed.opening_inj (hp.trans hsame)
        refine ⟨fun _ => ⟨hformed, ?_⟩, fun _ => List.mem_cons_self⟩
        intro other hother
        rw [Enclosed.closing_eq]
        rcases List.mem_cons.mp hother with rfl | hother
        · omega
        · have := hbehind other hother
          omega
      · constructor
        · intro hmem
          rcases List.mem_cons.mp hmem with rfl | hmem
          · omega
          · have := hbehind q hmem
            omega
        · intro hfree
          have hcloses := hfree.2 p List.mem_cons_self
          rw [Enclosed.closing_eq] at hcloses
          omega
    · have hother : q ≠ p := by
        rintro rfl
        omega
      have hcloses : p.closing ≠ q.opening := by
        rw [Enclosed.closing_eq]
        omega
      simp [hother, hcloses, hiff q hfar]

theorem finds_pair (p : Enclosed d text) {stop : Nat}
    (hstop : stop = byteLength (p.front ++ d.char :: (p.body ++ [d.char])))
    {taken skipped : List Token} (htaken : d.Finds text (p.opening + 2) taken)
    (hskipped : d.Finds text (p.opening + 1) skipped) :
    d.Finds text p.opening (match Body.read? d.char p.body with
      | some b => Token.ofBody (byteLength p.front) stop b :: taken
      | none => skipped) := by
  have hread := fun b => @Body.read?_eq_some_iff_formed d.char p.body b p.clear
  cases h : Body.read? d.char p.body with
  | some b =>
      have hformed := (hread b).mp h
      exact htaken.take rfl ⟨b, hformed⟩ (p.holds_ofBody hformed hstop)
  | none =>
      have hbad : ¬ p.WellFormed := by
        rintro ⟨b, hb⟩
        have := (hread b).mpr hb
        rw [h] at this
        cases this
      exact hskipped.skip rfl hbad

/-- In or outside a candidate, a scan finds the tokens that open at the delimiters which it has not
left behind. The induction is on the text that is still to be passed. -/
theorem scan_finds {front rest : List Char} {candidate : Option Candidate} {position : Nat}
    (htext : text = front ++ d.scanned candidate rest)
    (hbegins : d.Begins (byteLength front) position candidate)
    (hclear : ∀ k, candidate = some k → d.char ∉ k.gathered) :
    d.Finds text (front.count d.char) (d.scan position candidate rest) := by
  induction rest generalizing front candidate position with
  | nil =>
      have hfew : text.count d.char < front.count d.char + 2 := by
        cases candidate with
        | none => simp [htext, scanned]
        | some k => simp [htext, scanned, List.count_eq_zero_of_not_mem (hclear k rfl)]
      cases candidate <;> exact .nil hfew
  | cons c rest ih =>
      cases candidate with
      | none =>
          obtain rfl : byteLength front = position := hbegins
          simp only [scan]
          split_ifs with hc
          · subst hc
            exact ih htext ⟨rfl, by simp⟩ (by simp)
          · have hnext : front.count d.char = (front ++ [c]).count d.char := by simp [hc]
            rw [hnext]
            apply ih
            · simpa [scanned] using htext
            · simp [Begins]
            · simp
      | some k =>
          obtain ⟨hstart, hposition⟩ := hbegins
          have hfree : d.char ∉ k.gathered.reverse := by simpa using hclear k rfl
          simp only [scan]
          split_ifs with hc
          · subst hc
            have hsplits : text = front ++ d.char :: (k.gathered.reverse ++ d.char :: rest) := by
              simpa [scanned] using htext
            have hstop : position + d.char.utf8Size =
                byteLength (front ++ d.char :: (k.gathered.reverse ++ [d.char])) := by
              rw [hposition]
              simp [Nat.add_assoc]
            rw [hstart]
            refine finds_pair ⟨front, k.gathered.reverse, rest, hsplits, hfree⟩ hstop ?_ ?_
            · have hcount : front.count d.char + 2 =
                  (front ++ d.char :: (k.gathered.reverse ++ [d.char])).count d.char := by
                simp [List.count_eq_zero_of_not_mem hfree]
              show d.Finds text (front.count d.char + 2) _
              rw [hcount]
              apply ih
              · simpa [scanned] using hsplits
              · exact hstop.symm
              · simp
            · have hcount : front.count d.char + 1 =
                  (front ++ d.char :: k.gathered.reverse).count d.char := by
                simp [List.count_eq_zero_of_not_mem hfree]
              show d.Finds text (front.count d.char + 1) _
              rw [hcount]
              apply ih
              · simpa [scanned] using hsplits
              · simp [Begins, hposition, Nat.add_assoc]
              · simp
          · apply ih
            · simpa [scanned] using htext
            · simp [Begins, hstart, hposition, Nat.add_assoc]
            · intro k' hk'
              obtain rfl := Option.some.inj hk'
              have hne : d.char ≠ c := fun h => hc h.symm
              simp [hne, hclear k rfl]

/-- The tokens of a text are those of the grammar. They correspond, in their order, to the pairs of
consecutive delimiters with a well-formed body whose first delimiter closes no other token; each
stands where its delimiters are and asks for what its body says. -/
theorem tokens_correspond_to_pairs (d : Delimiter) (text : String) :
    ∃ chosen : List (Enclosed d text.toList),
      List.Forall₂ Enclosed.Holds chosen (d.tokens text) ∧
      chosen.Pairwise (fun p q => p.opening < q.opening) ∧
      ∀ p : Enclosed d text.toList,
        p ∈ chosen ↔ p.WellFormed ∧ ∀ q ∈ chosen, q.closing ≠ p.opening := by
  obtain ⟨chosen, hholds, hsorted, -, hiff⟩ :=
    @scan_finds d text.toList [] text.toList none 0 rfl rfl (by simp)
  exact ⟨chosen, hholds, hsorted, fun p => hiff p (Nat.zero_le _)⟩

/-- The first two delimiters enclose no token, so the second may open one. The third closes it and
opens none. -/
example : (percent.tokens "1% %a_b%c_d%").map Token.identifier = ["b"] := by decide +kernel

end Delimiter
end Placeholder
