import Placeholder.Proofs.Caching
import Placeholder.Proofs.Calls
import Mathlib.Data.List.Induction

/-!
# What a history says about a cache

A history alone tells under which keys a cache with room for everything holds an entry, and which
value it was that was made last under a key and not dropped since.
-/
namespace Placeholder

variable {σ : Type}

namespace Settled

/-- The fresh value of the source that a resolution came to. -/
def produced? (x : Settled) : Option String :=
  match x.origin, x.answer with
  | .registry, .value text => some text
  | _, _ => none

def key (x : Settled) : Key := Key.ofToken x.token x.context

def ask (x : Settled) : Ask := Ask.of x.token x.context

/-- Neither the gate nor a custom resolver nor the refusal has settled the token. -/
structure AtCache (r : Resolver σ) (x : Settled) : Prop where
  passes : Passes x.token x.context
  not_custom : x.origin ≠ .custom
  allowed : r.refuses x.token = false

/-- The resolution was made for a token that was read, in a context that has what it needs. -/
structure Genuine (x : Settled) : Prop where
  parsed : x.token.Parsed
  passes : x.origin ≠ .gate → Passes x.token x.context

theorem Genuine.passes_of_produced {x : Settled} (hx : x.Genuine) {value : String}
    (hp : x.produced? = some value) : Passes x.token x.context := by
  apply hx.passes
  intro h
  simp [produced?, h] at hp

end Settled

namespace Happening

/-- What takes a value out of use that was made for a token in a context: another such value, or
that it is dropped with its key, with a subject it was made for, or with everything. -/
inductive Ends (token : Token) (context : Context) : Happening → Prop
  | replaced {x : Settled} {now : UInt64} {value : String} : x.produced? = some value →
      x.ask = Ask.of token context → Ends token context (.settled x now)
  | invalidated : Ends token context (.invalidated (Key.ofToken token context))
  | forgotten {whom : Subject} :
      context.primary = some whom ∨ (token.relational = true ∧ context.secondary = some whom) →
      Ends token context (.forgotten whom)
  | cleared : Ends token context .cleared

def Genuine : Happening → Prop
  | settled x _ => x.Genuine
  | invalidated _ | forgotten _ | cleared => True

/-- What happens to the value that was made last under a key. -/
def touch (key : Key) (last : Option (String × UInt64)) : Happening → Option (String × UInt64)
  | settled x now =>
    match x.produced? with
    | some value => if x.key = key then some (value, now) else last
    | none => last
  | invalidated k => if k = key then none else last
  | forgotten whom => if key.mentions whom then none else last
  | cleared => none

/-- Nothing happens to what was made under a key. -/
def Spares (key : Key) (h : Happening) : Prop := ∀ last, h.touch key last = last

theorem touch_cases (key : Key) (h : Happening) :
    h.Spares key ∨ (∀ last, h.touch key last = none) ∨
      ∃ x now value, h = .settled x now ∧ x.produced? = some value ∧ x.key = key := by
  cases h with
  | settled x now =>
      cases hp : x.produced? with
      | none => exact .inl fun last => by simp only [touch, hp]
      | some value =>
          by_cases hk : x.key = key
          · exact .inr (.inr ⟨x, now, value, rfl, hp, hk⟩)
          · exact .inl fun last => by simp only [touch, hp, if_neg hk]
  | invalidated k =>
      by_cases hk : k = key
      · exact .inr (.inl fun last => if_pos hk)
      · exact .inl fun last => if_neg hk
  | forgotten whom =>
      by_cases hk : key.mentions whom = true
      · exact .inr (.inl fun last => if_pos hk)
      · exact .inl fun last => if_neg hk
  | cleared => exact .inr (.inl fun _ => rfl)

theorem touch_produced {key : Key} {x : Settled} {value : String} (hp : x.produced? = some value)
    (hk : x.key = key) (now : UInt64) (last : Option (String × UInt64)) :
    (settled x now).touch key last = some (value, now) := by
  simp only [touch, hp, if_pos hk]

theorem touch_settled_of_ne {key : Key} {x : Settled} (hk : x.key ≠ key) (now : UInt64)
    (last : Option (String × UInt64)) : (settled x now).touch key last = last := by
  cases hp : x.produced? <;> simp [touch, hp, hk]

/-- What is kept under the key of a token is spared by what does not end its use, and by nothing
else. -/
theorem spares_iff {token : Token} {context : Context} (ht : token.Parsed)
    (hc : Passes token context) {h : Happening} (hh : h.Genuine) :
    h.Spares (Key.ofToken token context) ↔ ¬ h.Ends token context := by
  cases h with
  | settled x now =>
      cases hp : x.produced? with
      | none =>
          constructor
          · intro _ he
            cases he with
            | replaced hv => simp [hp] at hv
          · intro _ last
            simp only [touch, hp]
      | some value =>
          have hkey := Key.ofToken_eq_iff hh.parsed ht (hh.passes_of_produced hp) hc
          constructor
          · intro hspares he
            cases he with
            | replaced _ hask =>
                have := hspares none
                rw [touch_produced hp (hkey.mpr hask)] at this
                cases this
          · intro hends last
            have hk : x.key ≠ Key.ofToken token context := by
              intro hk
              exact hends (.replaced hp (hkey.mp hk))
            simp only [touch, hp, if_neg hk]
  | invalidated k =>
      constructor
      · intro hspares he
        cases he
        have := hspares (some ("", 0))
        simp [touch] at this
      · intro hends last
        refine if_neg ?_
        intro h
        subst h
        exact hends .invalidated
  | forgotten whom =>
      have hm := Key.mentions_ofToken hc whom
      constructor
      · intro hspares he
        cases he with
        | forgotten hwhom =>
            have := hspares (some ("", 0))
            simp [touch, hm.mpr hwhom] at this
      · intro hends last
        refine if_neg ?_
        intro h
        exact hends (.forgotten (hm.mp h))
  | cleared =>
      constructor
      · intro hspares
        have := hspares (some ("", 0))
        simp [touch] at this
      · intro hends
        exact (hends .cleared).elim

end Happening

/-! ## The value made last -/

/-- The value that was made last under a key and not dropped since, and the reading at which it was
made. -/
def latest (key : Key) (history : List Happening) : Option (String × UInt64) :=
  history.foldl (Happening.touch key) none

@[simp] theorem latest_concat (key : Key) (past : List Happening) (h : Happening) :
    latest key (past ++ [h]) = h.touch key (latest key past) := by
  simp [latest]

theorem foldl_touch_of_spares {key : Key} {history : List Happening}
    (h : ∀ x ∈ history, x.Spares key) (last : Option (String × UInt64)) :
    history.foldl (Happening.touch key) last = last := by
  induction history generalizing last with
  | nil => rfl
  | cons x rest ih =>
      obtain ⟨hx, hrest⟩ := List.forall_mem_cons.mp h
      rw [List.foldl_cons, hx last, ih hrest]

/-- A value is the last one exactly if it was made and has been spared ever since. -/
theorem latest_eq_some_iff {key : Key} {history : List Happening} {value : String}
    {written : UInt64} :
    latest key history = some (value, written) ↔ ∃ older newer x,
      history = older ++ .settled x written :: newer ∧ x.produced? = some value ∧ x.key = key ∧
        ∀ h ∈ newer, h.Spares key := by
  constructor
  · intro h
    induction history using List.reverseRecOn with
    | nil => cases h
    | append_singleton past last ih =>
        rw [latest_concat] at h
        rcases last.touch_cases key with hspares | hnone | ⟨x, now, v, rfl, hp, hk⟩
        · rw [hspares] at h
          obtain ⟨older, newer, x, rfl, hp, hk, hnewer⟩ := ih h
          refine ⟨older, newer ++ [last], x, by simp, hp, hk, ?_⟩
          intro y hy
          rcases List.mem_append.mp hy with hy | hy
          · exact hnewer y hy
          · rw [List.mem_singleton.mp hy]
            exact hspares
        · rw [hnone] at h
          cases h
        · rw [Happening.touch_produced hp hk] at h
          cases h
          exact ⟨past, [], x, rfl, hp, hk, by simp⟩
  · intro h
    obtain ⟨older, newer, x, rfl, hp, hk, hnewer⟩ := h
    unfold latest
    rw [List.foldl_append, List.foldl_cons, Happening.touch_produced hp hk]
    exact foldl_touch_of_spares hnewer _

theorem latest_key_eq_some_iff {x : Settled} (hx : x.Genuine) (hpasses : Passes x.token x.context)
    {history : List Happening} (hh : ∀ h ∈ history, h.Genuine) (value : String)
    (written : UInt64) :
    latest x.key history = some (value, written) ↔ ∃ older newer y,
      history = older ++ .settled y written :: newer ∧ y.produced? = some value ∧
        y.ask = x.ask ∧ ∀ h ∈ newer, ¬ h.Ends x.token x.context := by
  rw [latest_eq_some_iff]
  refine exists_congr fun older => exists_congr fun newer => exists_congr fun y => ?_
  refine and_congr_right fun he => and_congr_right fun hp => ?_
  subst he
  have hy : y.Genuine := hh _ (List.mem_append_right _ List.mem_cons_self)
  refine and_congr (Key.ofToken_eq_iff hy.parsed hx.parsed (hy.passes_of_produced hp) hpasses) ?_
  refine forall_congr' fun h => forall_congr' fun hmem => ?_
  have hgenuine := hh h (List.mem_append_right _ (List.mem_cons_of_mem _ hmem))
  exact Happening.spares_iff hx.parsed hpasses hgenuine

theorem Registry.ttl_eq_of_key_eq (g : Registry σ) {t u : Token} {c d : Context} (ht : t.Parsed)
    (hu : u.Parsed) (hc : Passes t c) (hd : Passes u d) (h : Key.ofToken t c = Key.ofToken u d) :
    g.ttl t.expansion t.identifier = g.ttl u.expansion u.identifier := by
  have hask := (Key.ofToken_eq_iff ht hu hc hd).mp h
  have he : t.expansion = u.expansion := congrArg Ask.expansion hask
  have hi : t.identifier = u.identifier := congrArg Ask.identifier hask
  rw [he, hi]

/-! ## The keys in use -/

/-- What happens to the keys under which a cache with room for everything holds an entry. A
question in vain has dropped a stale entry. -/
def hold (g : Registry σ) (keys : List Key) : Happening → List Key
  | .settled x _ =>
    match x.origin with
    | .registry =>
      let others := keys.filter fun k => k ≠ x.key
      if (g.ttl x.token.expansion x.token.identifier).isNone then others else x.key :: others
    | .nothing => keys.filter fun k => k ≠ x.key
    | .gate | .custom | .refusal | .cache => keys
  | .invalidated key => keys.filter fun k => k ≠ key
  | .forgotten whom => keys.filter fun k => !k.mentions whom
  | .cleared => []

/-- The keys under which a cache with room for everything holds an entry after a history. -/
def held (g : Registry σ) (history : List Happening) : List Key := history.foldl (hold g) []

@[simp] theorem held_concat (g : Registry σ) (past : List Happening) (h : Happening) :
    held g (past ++ [h]) = hold g (held g past) h := by
  simp [held]

/-! ## Moment by moment -/

/-- Each happening of a stretch has a property that may depend on what was before it. -/
def Throughout (p : List Happening → Happening → Prop) (past stretch : List Happening) : Prop :=
  ∀ before h after, stretch = before ++ h :: after → p (past ++ before) h

namespace Throughout

variable {p : List Happening → Happening → Prop} {past : List Happening}

theorem nil : Throughout p past [] := by
  intro before h after he
  simp at he

theorem cons_iff {h : Happening} {rest : List Happening} :
    Throughout p past (h :: rest) ↔ p past h ∧ Throughout p (past ++ [h]) rest := by
  constructor
  · intro hall
    refine ⟨by simpa using hall [] h rest rfl, ?_⟩
    intro before x after he
    simpa using hall (h :: before) x after (by simp [he])
  · intro h before x after he
    obtain ⟨hfirst, hrest⟩ := h
    cases before with
    | nil =>
        cases he
        simpa using hfirst
    | cons y before =>
        cases he
        simpa using hrest before x after rfl

theorem append_iff {first second : List Happening} :
    Throughout p past (first ++ second) ↔
      Throughout p past first ∧ Throughout p (past ++ first) second := by
  induction first generalizing past with
  | nil => simp [nil]
  | cons h rest ih =>
      rw [List.cons_append, cons_iff, cons_iff, ih, and_assoc, List.append_assoc]
      rfl

end Throughout
end Placeholder
