import Placeholder.Token.Scan
import Mathlib.Tactic.SplitIfs

/-!
# Where the tokens of a text lie

The tokens that a scan finds stand in the text one after another. Their positions are borders
between characters, and none reaches into the next. `Laid` says so by taking the text apart: what
stands before the first token, the token itself, and the rest, in which the other tokens lie.
-/
namespace Placeholder

open Text

/-- The tokens lie one after another in a text that begins at a position. -/
inductive Laid : (position : Nat) → List Char → List Token → Prop
  | nil {position : Nat} {text : List Char} : Laid position text []
  | cons {position : Nat} {t : Token} {tokens : List Token} (before own : List Char)
      {rest : List Char} : t.start = position + byteLength before →
      t.stop = t.start + byteLength own → own ≠ [] → Laid t.stop rest tokens →
      Laid position (before ++ own ++ rest) (t :: tokens)

theorem Laid.skip {position : Nat} {front text : List Char} {tokens : List Token}
    (h : Laid (position + byteLength front) text tokens) :
    Laid position (front ++ text) tokens := by
  cases h with
  | nil => exact .nil
  | @cons _ t tokens before own rest hstart hstop hown hrest =>
      have hs : t.start = position + byteLength (front ++ before) := by
        rw [hstart, byteLength_append, Nat.add_assoc]
      simpa only [List.append_assoc] using Laid.cons (front ++ before) own hs hstop hown hrest

theorem Laid.le_start {position : Nat} {text : List Char} {tokens : List Token}
    (h : Laid position text tokens) : ∀ t ∈ tokens, position ≤ t.start := by
  induction h with
  | nil => simp
  | cons before own hstart hstop _ _ ih =>
      intro t ht
      rcases List.mem_cons.mp ht with rfl | ht
      · omega
      · have := ih t ht
        omega

theorem Text.byteLength_pos {text : List Char} (h : text ≠ []) : 0 < byteLength text := by
  cases text with
  | nil => exact (h rfl).elim
  | cons c rest =>
      have := Char.utf8Size_pos c
      simp only [byteLength_cons]
      omega

theorem Laid.start_lt_stop {position : Nat} {text : List Char} {tokens : List Token}
    (h : Laid position text tokens) : ∀ t ∈ tokens, t.start < t.stop := by
  induction h with
  | nil => simp
  | cons before own hstart hstop hown _ ih =>
      intro t ht
      rcases List.mem_cons.mp ht with rfl | ht
      · have := byteLength_pos hown
        omega
      · exact ih t ht

theorem Laid.pairwise {position : Nat} {text : List Char} {tokens : List Token}
    (h : Laid position text tokens) : tokens.Pairwise fun t u => t.stop ≤ u.start := by
  induction h with
  | nil => exact .nil
  | cons before own _ _ _ hrest ih => exact .cons hrest.le_start ih

namespace Delimiter

variable {d : Delimiter}

/-- The text that a scan is about: its candidate is a part of it that has been passed already. -/
def scanned (d : Delimiter) (candidate : Option Candidate) (text : List Char) : List Char :=
  match candidate with
  | none => text
  | some k => d.char :: k.gathered.reverse ++ text

/-- Where that text begins, if the candidate has been gathered up to a position. -/
def Begins (d : Delimiter) (start position : Nat) : Option Candidate → Prop
  | none => start = position
  | some k => k.start = start ∧ position = start + byteLength (d.char :: k.gathered.reverse)

/-- Whether it is in a candidate or not, a scan finds tokens in their order and apart from each
other. The induction is on the text that is still to be passed. -/
theorem scan_laid {start position : Nat} {candidate : Option Candidate} {text : List Char}
    (h : d.Begins start position candidate) :
    Laid start (d.scanned candidate text) (d.scan position candidate text) := by
  induction text generalizing start position candidate with
  | nil => cases candidate <;> exact .nil
  | cons c rest ih =>
      cases candidate with
      | none =>
          obtain rfl : start = position := h
          simp only [scan]
          split_ifs with hc
          · subst hc
            exact @ih start _ (some ⟨start, []⟩) ⟨rfl, by simp⟩
          · have hrest := @ih (start + byteLength [c]) _ none rfl
            exact hrest.skip
      | some k =>
          obtain ⟨rfl, hp⟩ := h
          simp only [scan]
          split_ifs with hc
          · subst hc
            split
            · rename_i b hb
              have hrest := @ih (position + d.char.utf8Size) _ none rfl
              have hstop : position + d.char.utf8Size =
                  k.start + byteLength (d.char :: k.gathered.reverse ++ [d.char]) := by
                rw [hp, byteLength_append]
                simp [Nat.add_assoc]
              simpa [scanned] using Laid.cons (t := Token.ofBody k.start _ b) []
                (d.char :: k.gathered.reverse ++ [d.char]) rfl hstop (by simp) hrest
            · have hrest := @ih position (position + d.char.utf8Size) (some ⟨position, []⟩)
                ⟨rfl, by simp⟩
              rw [hp] at hrest
              rw [hp]
              simpa [scanned] using hrest.skip
          · have hnext : position + c.utf8Size =
                k.start + byteLength (d.char :: (c :: k.gathered).reverse) := by
              rw [hp]
              simp [Nat.add_assoc]
            simpa [scanned] using @ih k.start _ (some ⟨k.start, c :: k.gathered⟩) ⟨rfl, hnext⟩

theorem tokens_laid (d : Delimiter) (text : String) : Laid 0 text.toList (d.tokens text) :=
  @scan_laid d 0 0 none _ rfl

/-- Inside a candidate one delimiter is needed for a token, outside two. -/
theorem scan_eq_nil {position : Nat} {candidate : Option Candidate} {text : List Char}
    (h : text.count d.char + (if candidate.isSome then 1 else 0) < 2) :
    d.scan position candidate text = [] := by
  induction text generalizing position candidate with
  | nil => cases candidate <;> rfl
  | cons c rest ih =>
      simp only [List.count_cons, beq_iff_eq] at h
      cases candidate with
      | none =>
          simp only [scan]
          split_ifs with hc
          · apply ih
            simp only [hc, if_true, Option.isSome_none, Bool.false_eq_true, if_false,
              Option.isSome_some] at h ⊢
            omega
          · apply ih
            simp only [hc, Option.isSome_none, Bool.false_eq_true, if_false] at h ⊢
            omega
      | some k =>
          have hc : c ≠ d.char := by
            intro hc
            simp only [hc, if_true, Option.isSome_some] at h
            omega
          simp only [scan, if_neg hc]
          apply ih
          simp only [hc, if_false, Option.isSome_some, if_true] at h ⊢
          omega

/-- The check that comes before a scan turns away no text with a token. -/
theorem tokens_eq_nil_of_not_mayHaveTokens {text : String} (h : d.mayHaveTokens text = false) :
    d.tokens text = [] := by
  apply scan_eq_nil
  simpa [mayHaveTokens] using h

end Delimiter
end Placeholder
