import Placeholder.Proofs.Grammar

/-!
# Texts that are one token

A text can be read as a whole, with or without delimiters around it, or it can be scanned for
tokens, and the two ways agree. What is read as a whole is a body, or a body between two delimiters;
so a token that a scan finds can be read again from its own stretch of the text, and a text can be
read as a whole exactly if a scan of it, or of it between two more delimiters, finds one token that
goes from end to end.
-/
namespace Placeholder

namespace Text

/-- The characters between two byte positions; none if the positions are no borders of the text. -/
def slice? (text : List Char) (start stop : Nat) : Option (List Char) :=
  if start ≤ stop then
    (splitAtByte text start).bind fun parts =>
      (splitAtByte parts.2 (stop - start)).map Prod.fst
  else none

theorem slice?_append (front middle back : List Char) :
    slice? (front ++ middle ++ back) (byteLength front) (byteLength front + byteLength middle) =
      some middle := by
  have hmiddle := splitAtByte_byteLength middle back
  simp [slice?, List.append_assoc, splitAtByte_byteLength, hmiddle]

theorem eq_nil_of_byteLength {text : List Char} (h : byteLength text = 0) : text = [] := by
  by_contra hne
  have := byteLength_pos hne
  omega

end Text

open Text

namespace Token

/-- The token goes from end to end of a text. -/
def Spans (t : Token) (text : List Char) : Prop := t.start = 0 ∧ t.stop = byteLength text

/-- A token that asks for the same and is a whole text. -/
def alone (t : Token) (text : List Char) : Token := { t with start := 0, stop := byteLength text }

@[simp] theorem key_alone (t : Token) (text : List Char) : (t.alone text).key = t.key := rfl

@[simp] theorem alone_ofBody (start stop : Nat) (b : Body) (text : List Char) :
    (ofBody start stop b).alone text = ofBody 0 (byteLength text) b := rfl

end Token

namespace Delimiter

variable {d : Delimiter} {body text : List Char} {b : Body} {t : Token}

/-- The text with a delimiter on both sides. -/
def enclose (d : Delimiter) (body : List Char) : List Char := d.char :: (body ++ [d.char])

theorem char_mem_enclose : d.char ∈ d.enclose body := List.mem_cons_self

theorem enclose_inj {other : List Char} (h : d.enclose body = d.enclose other) : body = other := by
  simpa [enclose] using h

theorem not_mem_of_read? (h : Body.read? d.char text = some b) : d.char ∉ text := by
  obtain ⟨hreadable, rfl⟩ := Body.read?_eq_some_iff.mp h
  intro hmem
  have hforeign := hreadable.no_foreign _ hmem
  simp [Body.isForeign] at hforeign

/-! ## Scanning one candidate -/

theorem scan_gather (hclear : d.char ∉ body) (position start : Nat) (gathered rest : List Char) :
    d.scan position (some ⟨start, gathered⟩) (body ++ rest) =
      d.scan (position + byteLength body) (some ⟨start, body.reverse ++ gathered⟩) rest := by
  induction body generalizing position gathered with
  | nil => rfl
  | cons c body ih =>
      obtain ⟨hc, hbody⟩ : d.char ≠ c ∧ d.char ∉ body := by simpa using hclear
      simp only [List.cons_append, scan, if_neg hc.symm]
      rw [ih hbody]
      simp [Nat.add_assoc]

/-- Between two delimiters there is one token, or none if what stands there is no body. -/
theorem tokens_enclose (hclear : d.char ∉ body) :
    d.tokens (String.ofList (d.enclose body)) =
      ((Body.read? d.char body).map (Token.ofBody 0 (byteLength (d.enclose body)))).toList := by
  have hlength : d.char.utf8Size + byteLength body + d.char.utf8Size =
      byteLength (d.enclose body) := by
    simp [enclose, Nat.add_assoc]
  simp only [tokens, String.toList_ofList, enclose, scan, if_true]
  rw [scan_gather hclear]
  simp only [List.append_nil, scan, if_true, List.reverse_reverse, Nat.zero_add, hlength]
  cases Body.read? d.char body <;> rfl

/-! ## Reading a whole text -/

theorem strip_enclose (d : Delimiter) (body : List Char) : d.strip (d.enclose body) = body := by
  simp [strip, enclose]

theorem strip_cases (d : Delimiter) (text : List Char) :
    d.strip text = text ∨ text = d.enclose (d.strip text) := by
  cases text with
  | nil => exact .inl rfl
  | cons c rest =>
      by_cases h : c = d.char ∧ rest.getLast? = some d.char
      · right
        obtain ⟨rfl, hlast⟩ := h
        have hrest : rest.dropLast ++ [d.char] = rest :=
          List.dropLast_append_getLast? d.char hlast
        simp [strip, hlast, enclose, hrest]
      · left
        simp only [strip, if_neg h]

/-- A text is read as a whole if it is a body, or a body between two delimiters. -/
theorem token?_eq_some_iff {text : String} :
    d.token? text = some t ↔ ∃ b, t = Token.ofBody 0 (byteLength text.toList) b ∧
      (Body.read? d.char text.toList = some b ∨
        ∃ body, text.toList = d.enclose body ∧ Body.read? d.char body = some b) := by
  simp only [token?, Option.map_eq_some_iff]
  refine exists_congr fun b => ?_
  rw [and_comm, eq_comm]
  refine and_congr_right fun _ => ?_
  constructor
  · intro h
    rcases d.strip_cases text.toList with hsame | henclosed
    · exact .inl (hsame ▸ h)
    · exact .inr ⟨_, henclosed, h⟩
  · intro h
    rcases h with h | ⟨body, hbody, h⟩
    · rcases d.strip_cases text.toList with hsame | henclosed
      · rwa [hsame]
      · exact (not_mem_of_read? h (henclosed ▸ char_mem_enclose)).elim
    · rwa [hbody, strip_enclose]

/-! ## Where a token was found -/

theorem exists_holds {text : List Char} {chosen : List (Enclosed d text)} {tokens : List Token}
    (hholds : List.Forall₂ Enclosed.Holds chosen tokens) (ht : t ∈ tokens) :
    ∃ p : Enclosed d text, p.Holds t := by
  induction hholds with
  | nil => cases ht
  | cons hfirst _ ih =>
      rcases List.mem_cons.mp ht with rfl | ht
      · exact ⟨_, hfirst⟩
      · exact ih ht

/-- A token of a text is read from what stands between two delimiters of it. -/
theorem exists_enclosed {text : String} (ht : t ∈ d.tokens text) :
    ∃ front body back b, text.toList = front ++ d.enclose body ++ back ∧
      Body.read? d.char body = some b ∧
      t = Token.ofBody (byteLength front) (byteLength front + byteLength (d.enclose body)) b := by
  obtain ⟨chosen, hholds, -⟩ := @scan_finds d text.toList [] text.toList none 0 rfl rfl (by simp)
  obtain ⟨p, hstart, hstop, b, hformed, he, hi, hr⟩ := exists_holds hholds ht
  have hread := (Body.read?_eq_some_iff_formed p.clear).mpr hformed
  refine ⟨p.front, p.body, p.back, b, by simpa [enclose] using p.splits, hread, ?_⟩
  rw [byteLength_append] at hstop
  cases t
  simp_all [Token.ofBody, enclose]

/-- A scan finds one token from end to end exactly if the text is a body between two delimiters. -/
theorem tokens_eq_spanning_iff {text : String} :
    (d.tokens text = [t] ∧ t.Spans text.toList) ↔
      ∃ body b, text.toList = d.enclose body ∧ Body.read? d.char body = some b ∧
        t = Token.ofBody 0 (byteLength text.toList) b := by
  constructor
  · intro h
    obtain ⟨htokens, hspans⟩ := h
    obtain ⟨front, body, back, b, hsplits, hread, rfl⟩ :=
      exists_enclosed (htokens ▸ List.mem_singleton_self t)
    obtain ⟨hstart, hstop⟩ : byteLength front = 0 ∧
      byteLength front + byteLength (d.enclose body) = byteLength text.toList := hspans
    have hlength := congrArg byteLength hsplits
    simp only [byteLength_append] at hlength
    obtain rfl := eq_nil_of_byteLength hstart
    obtain rfl : back = [] := eq_nil_of_byteLength (by omega)
    refine ⟨body, b, by simpa using hsplits, hread, ?_⟩
    rw [← hstop]
    simp
  · intro h
    obtain ⟨body, b, hwhole, hread, rfl⟩ := h
    obtain rfl : text = String.ofList (d.enclose body) := by rw [← hwhole, String.ofList_toList]
    refine ⟨?_, rfl, rfl⟩
    rw [tokens_enclose (not_mem_of_read? hread), hread, String.toList_ofList]
    rfl

/-- The two ways to read agree. What a scan finds can be read again as a whole, from the stretch
that it names and from what is between the delimiters there. What can be read as a whole is what a
scan finds from end to end, in the text or in the text between two more delimiters. -/
theorem token?_agrees_with_tokens (d : Delimiter) :
    (∀ text, ∀ t ∈ d.tokens text, ∃ body,
      slice? text.toList t.start t.stop = some (d.enclose body) ∧
      d.token? (String.ofList (d.enclose body)) = some (t.alone (d.enclose body)) ∧
      d.token? (String.ofList body) = some (t.alone body)) ∧
    ∀ text t, d.token? text = some t ↔
      (d.tokens text = [t] ∧ t.Spans text.toList) ∨
        ∃ u, d.tokens (String.ofList (d.enclose text.toList)) = [u] ∧
          u.Spans (d.enclose text.toList) ∧ t = u.alone text.toList := by
  constructor
  · intro text t ht
    obtain ⟨front, body, back, b, hsplits, hread, rfl⟩ := exists_enclosed ht
    refine ⟨body, ?_, ?_, ?_⟩
    · rw [hsplits]
      exact slice?_append front (d.enclose body) back
    · refine token?_eq_some_iff.mpr ⟨b, ?_, .inr ⟨body, String.toList_ofList, hread⟩⟩
      simp
    · refine token?_eq_some_iff.mpr ⟨b, ?_, .inl ?_⟩
      · simp
      · rwa [String.toList_ofList]
  · intro text t
    have hbare := fun u => @tokens_eq_spanning_iff d u (String.ofList (d.enclose text.toList))
    simp only [String.toList_ofList] at hbare
    rw [tokens_eq_spanning_iff, token?_eq_some_iff]
    constructor
    · intro h
      obtain ⟨b, rfl, hread | ⟨body, hbody, hread⟩⟩ := h
      · obtain ⟨htokens, hspans⟩ := (hbare _).mpr ⟨_, b, rfl, hread, rfl⟩
        exact .inr ⟨_, htokens, hspans, rfl⟩
      · exact .inl ⟨body, b, hbody, hread, rfl⟩
    · intro h
      rcases h with ⟨body, b, hbody, hread, rfl⟩ | ⟨u, htokens, hspans, rfl⟩
      · exact ⟨b, rfl, .inr ⟨body, hbody, hread⟩⟩
      · obtain ⟨body, b, hbody, hread, rfl⟩ := (hbare u).mp ⟨htokens, hspans⟩
        obtain rfl := enclose_inj hbody
        exact ⟨b, rfl, .inl hread⟩

/-- The token behind a stray delimiter is read again from its stretch and from its body. -/
theorem found_read_again : (⟨3, 8, "a", "b", false⟩ : Token) ∈ percent.tokens "1% %a_b%" ∧
    ∃ body, slice? "1% %a_b%".toList 3 8 = some (percent.enclose body) ∧
      percent.token? (String.ofList (percent.enclose body)) =
        some (Token.alone ⟨3, 8, "a", "b", false⟩ (percent.enclose body)) ∧
      percent.token? (String.ofList body) = some (Token.alone ⟨3, 8, "a", "b", false⟩ body) := by
  have hfound : (⟨3, 8, "a", "b", false⟩ : Token) ∈ percent.tokens "1% %a_b%" := by
    decide +kernel
  exact ⟨hfound, (token?_agrees_with_tokens percent).1 _ _ hfound⟩

end Delimiter
end Placeholder
