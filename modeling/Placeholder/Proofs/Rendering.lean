import Placeholder.Proofs.Layout
import Placeholder.Resolver.Pass

/-!
# What a rendered text looks like

Answers are put into a text from its end to its start, each time into a buffer of another length.
What comes out is said here without a buffer, on the bytes of the text and from left to right: the
stretches between the tokens stay, and each token gives way to what is shown for it.
-/
namespace Placeholder

open Text

theorem size_utf8Encode (text : List Char) : text.utf8Encode.size = byteLength text := by
  induction text with
  | nil => rfl
  | cons c rest ih =>
      rw [List.utf8Encode_cons, ByteArray.size_append, ih, List.utf8Encode_singleton,
        List.size_toByteArray, String.length_utf8EncodeChar, byteLength_cons]

/-- The bytes between two positions of a text are those of the characters between them. -/
theorem extract_utf8Encode (before own rest : List Char) {start stop : Nat}
    (hstart : start = byteLength before) (hstop : stop = start + byteLength own) :
    (before ++ own ++ rest).utf8Encode.extract start stop = own.utf8Encode := by
  have h := ByteArray.extract_append_size_add (a := before.utf8Encode)
    (b := own.utf8Encode ++ rest.utf8Encode) (i := 0) (j := own.utf8Encode.size)
  rw [ByteArray.extract_append_eq_left rfl, Nat.add_zero, size_utf8Encode, size_utf8Encode,
    ← hstart, ← hstop] at h
  rw [List.utf8Encode_append, List.utf8Encode_append, ByteArray.append_assoc, h]

/-- The bytes of a text from a position to its end, with other bytes in the place of each token. -/
def weave (shown : Token → ByteArray) (text : ByteArray) : (position : Nat) → List Token → ByteArray
  | position, [] => text.extract position text.size
  | position, t :: rest =>
      text.extract position t.start ++ shown t ++ weave shown text t.stop rest

/-- The bytes of a token in its text. -/
def Token.own (t : Token) (text : ByteArray) : ByteArray := text.extract t.start t.stop

theorem splice_append (replacement : Token → Option String) (first second : List Token)
    (text : List Char) :
    splice replacement (first ++ second) text =
      (splice replacement first text).bind (splice replacement second) := by
  induction first generalizing text with
  | nil => rfl
  | cons t rest ih =>
      simp only [List.cons_append, splice]
      split
      · exact ih text
      · split
        · rfl
        · exact ih _

/-- What one replacement leaves of a token. -/
def put (replacement : Token → Option String) (t : Token) (own : List Char) : List Char :=
  ((replacement t).map String.toList).getD own

theorem splice_singleton (replacement : Token → Option String) {t : Token}
    {before own rest : List Char} (hstart : t.start = byteLength before)
    (hstop : t.stop = t.start + byteLength own) :
    splice replacement [t] (before ++ own ++ rest) =
      some (before ++ put replacement t own ++ rest) := by
  simp only [splice, put]
  cases replacement t with
  | none => rfl
  | some value =>
      rw [hstop, hstart]
      simp only [replaceRange_append, Option.map_some, Option.getD_some]

/-- The tokens that lie in the rest of a text are replaced without touching what comes before it,
and the new rest is the one that is woven from left to right. -/
theorem splice_laid (replacement : Token → Option String) {position : Nat} {text : List Char}
    {tokens : List Token} (h : Laid position text tokens) :
    ∀ front, byteLength front = position →
      ∃ out, splice replacement tokens.reverse (front ++ text) = some (front ++ out) ∧
        out.utf8Encode = weave
          (fun t => ((replacement t).map String.toByteArray).getD
            (t.own (front ++ text).utf8Encode))
          (front ++ text).utf8Encode position tokens := by
  induction h with
  | @nil position text =>
      intro front hfront
      refine ⟨text, rfl, ?_⟩
      rw [weave, List.utf8Encode_append, ByteArray.extract_append_eq_right]
      · rw [size_utf8Encode, hfront]
      · rw [ByteArray.size_append]
  | @cons position t tokens before own rest hstart hstop _ _ ih =>
      intro front hfront
      have hlen : byteLength (front ++ before) = t.start := by
        rw [byteLength_append, hfront, hstart]
      obtain ⟨out, hout, hbytes⟩ := ih (front ++ before ++ own) (by
        rw [byteLength_append, hlen, hstop])
      have hwhole : front ++ before ++ own ++ rest = front ++ (before ++ own ++ rest) := by
        simp only [List.append_assoc]
      rw [hwhole] at hout hbytes
      refine ⟨before ++ put replacement t own ++ out, ?_, ?_⟩
      · rw [List.reverse_cons, splice_append, hout, Option.bind_some,
          splice_singleton replacement hlen.symm hstop]
        simp only [List.append_assoc]
      · have hbefore := extract_utf8Encode front before (own ++ rest) hfront.symm hstart
        have hown := extract_utf8Encode (front ++ before) own rest hlen.symm hstop
        simp only [List.append_assoc] at hbefore hown
        rw [weave, ← hbytes, List.utf8Encode_append, List.utf8Encode_append]
        simp only [Token.own, List.append_assoc, hbefore, hown, put]
        cases replacement t with
        | none => rfl
        | some value => simp

/-- When the turn of a token comes, the text up to its end is still as it was, so the token stands
between the positions that it names. -/
theorem splice_in_place (replacement : Token → Option String) {position : Nat} {text : List Char}
    {earlier later : List Token} {t : Token} (h : Laid position text (earlier ++ t :: later)) :
    ∀ front, byteLength front = position →
      ∃ before own rest out, front ++ text = before ++ own ++ rest ∧
        splice replacement later.reverse (front ++ text) = some (before ++ own ++ out) ∧
        t.start = byteLength before ∧ t.stop = t.start + byteLength own := by
  induction earlier generalizing position text with
  | nil =>
      intro front hfront
      cases h with
      | @cons _ _ _ before own rest hstart hstop _ hrest =>
          have hlen : t.start = byteLength (front ++ before) := by
            rw [byteLength_append, hfront, hstart]
          obtain ⟨out, hout, -⟩ := splice_laid replacement hrest (front ++ before ++ own) (by
            rw [byteLength_append, ← hlen, hstop])
          refine ⟨front ++ before, own, rest, out, ?_, ?_, hlen, hstop⟩
          · simp only [List.append_assoc]
          · simpa only [List.append_assoc] using hout
  | cons u earlier ih =>
      intro front hfront
      cases h with
      | @cons _ _ _ before own rest hstart hstop _ hrest =>
          have hs := ih hrest (front ++ before ++ own) (by
            rw [byteLength_append, byteLength_append, hfront, hstop, hstart])
          simpa only [List.append_assoc] using hs

namespace Resolver

variable {σ : Type}

/-- What is shown for a token: the text of the answer to its key if there is one, else the token
itself or the fallback, as the resolver prefers. -/
def shown (r : Resolver σ) (fallback : Option String) (answers : Answers) (text : ByteArray)
    (t : Token) : ByteArray :=
  match answers.find? t.key with
  | some (.value value) => value.toByteArray
  | some (.cached value) => value.toByteArray
  | some .empty | none =>
      if r.preserveUnknown then t.own text else (fallback.getD "").toByteArray

theorem replacement_getD (r : Resolver σ) (fallback : Option String) (answers : Answers)
    (text : ByteArray) (t : Token) :
    ((r.replacement fallback answers t).map String.toByteArray).getD (t.own text) =
      r.shown fallback answers text t := by
  unfold replacement shown
  rcases answers.find? t.key with _ | (_ | _ | _)
  · cases r.preserveUnknown <;> rfl
  · rfl
  · rfl
  · cases r.preserveUnknown <;> rfl

theorem render_eq_weave (r : Resolver σ) (fallback : Option String) (answers : Answers)
    (text : String) :
    ∃ out, (∀ s : State σ,
      r.render fallback answers (r.delimiter.tokens text).reverse text s = ⟨.ok out, s, []⟩) ∧
      out.toByteArray = weave (r.shown fallback answers text.toByteArray) text.toByteArray 0
        (r.delimiter.tokens text) := by
  obtain ⟨out, hout, hbytes⟩ := splice_laid (r.replacement fallback answers)
    (r.delimiter.tokens_laid text) [] rfl
  simp only [List.nil_append, replacement_getD, String.utf8Encode_toList] at hout hbytes
  refine ⟨String.ofList out, fun s => ?_, by rw [String.toByteArray_ofList, hbytes]⟩
  simp only [render, hout, Exec.pure_apply]

theorem tokens_eq_nil_of_tokens? {r : Resolver σ} {text : String} (h : r.tokens? text = none) :
    r.delimiter.tokens text = [] := by
  unfold tokens? at h
  split_ifs at h with hm
  · split at h
    · assumption
    · cases h
  · exact Delimiter.tokens_eq_nil_of_not_mayHaveTokens (by simpa using hm)

theorem tokens_eq_of_tokens? {r : Resolver σ} {text : String} {tokens : List Token}
    (h : r.tokens? text = some tokens) : r.delimiter.tokens text = tokens := by
  unfold tokens? at h
  split_ifs at h
  split at h
  · cases h
  · simpa using h

/-- The early exits of a pass give what the whole pass would have given. -/
theorem pass_eq (inner : Inner σ) (r : Resolver σ) (fallback : Option String) (text : String)
    (context : Context) :
    r.pass inner fallback text context = (do
      let answers ← r.settleEach inner context (r.delimiter.tokens text).reverse .empty
      r.render fallback answers (r.delimiter.tokens text).reverse text) := by
  funext s
  unfold pass
  cases h : r.tokens? text with
  | none =>
      rw [tokens_eq_nil_of_tokens? h]
      simp [settleEach, render, splice, Exec.bind_apply]
  | some tokens => rw [tokens_eq_of_tokens? h]

theorem pass_of_tokens_eq_nil {inner : Inner σ} {r : Resolver σ} {fallback : Option String}
    {text : String} {context : Context} (h : r.delimiter.tokens text = []) (s : State σ) :
    r.pass inner fallback text context s = ⟨.ok text, s, []⟩ := by
  have hn : r.tokens? text = none := by
    unfold tokens?
    rw [h]
    split_ifs <;> rfl
  simp only [pass, hn, Exec.pure_apply]

/-- Rendering is right for every text. Whatever answers there are to its keys, the buffer ends up
as the text with what is shown in the place of its tokens, byte for byte, and the answers themselves
are not read again. The tokens are replaced from the last to the first, and each still stands where
it says when its turn comes. A text that is turned away early, or has no tokens, is left as it is,
which is what the whole pass would have done. -/
theorem resolveWithFallback_weaves (r : Resolver σ) (text : String) (context : Context)
    (fallback : Option String) :
    (∀ answers : Answers, ∃ out,
      (∀ s : State σ,
        r.render fallback answers (r.delimiter.tokens text).reverse text s = ⟨.ok out, s, []⟩) ∧
        out.toByteArray = weave (r.shown fallback answers text.toByteArray) text.toByteArray 0
          (r.delimiter.tokens text)) ∧
    (∀ (answers : Answers) (earlier later : List Token) (t : Token),
      r.delimiter.tokens text = earlier ++ t :: later →
        (∀ u ∈ earlier, u.stop ≤ t.start) ∧
        ∃ before own rest out, text.toList = before ++ own ++ rest ∧
          splice (r.replacement fallback answers) later.reverse text.toList =
            some (before ++ own ++ out) ∧
          t.start = byteLength before ∧ t.stop = t.start + byteLength own) ∧
    (r.resolveWithFallback text context fallback = do
      let answers ← r.settleEach r.inner context (r.delimiter.tokens text).reverse .empty
      r.render fallback answers (r.delimiter.tokens text).reverse text) ∧
    (r.delimiter.mayHaveTokens text = false ∨ r.delimiter.tokens text = [] →
      ∀ s, r.resolveWithFallback text context fallback s = ⟨.ok text, s, []⟩) := by
  refine ⟨fun answers => r.render_eq_weave fallback answers text, ?_,
    r.pass_eq r.inner fallback text context, ?_⟩
  · intro answers earlier later t ht
    have hlaid := r.delimiter.tokens_laid text
    rw [ht] at hlaid
    constructor
    · intro u hu
      exact (List.pairwise_append.mp hlaid.pairwise).2.2 u hu t List.mem_cons_self
    · simpa using splice_in_place (r.replacement fallback answers) hlaid [] rfl
  · intro h s
    rcases h with h | h
    · exact pass_of_tokens_eq_nil (Delimiter.tokens_eq_nil_of_not_mayHaveTokens h) s
    · exact pass_of_tokens_eq_nil h s

end Resolver
end Placeholder
