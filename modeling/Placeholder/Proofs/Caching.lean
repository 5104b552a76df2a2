import Placeholder.Cache.Basic
import Placeholder.Proofs.Settling
import Placeholder.Proofs.Tokens

/-!
# What a cache holds

A cache is described by what it finds under each key, and each operation by what it does to that.
The keys of tokens that pass the gate are as good as what the tokens ask for and for whom: two of
them are equal exactly if the same is asked for the same subjects.
-/
namespace Placeholder

namespace Cache

variable {cache cache' : Cache} {key k : Key} {text : String}

theorem get_hit (h : cache.get key = (some text, cache')) : cache' = cache := by
  unfold get at h
  split at h
  · cases h
  · split_ifs at h
    · cases h
    · exact (congrArg Prod.snd h).symm

theorem get_fst_eq_some_iff :
    (cache.get key).1 = some text ↔ ∃ entry, cache.entries.find? key = some entry ∧
      entry.isStale cache.clock.now = false ∧ entry.value = text := by
  unfold get
  cases hfind : cache.entries.find? key with
  | none => simp
  | some entry => cases hstale : entry.isStale cache.clock.now <;> simp [hstale]

/-- A question in vain drops a stale entry of the key and nothing else. -/
theorem get_none (h : cache.get key = (none, cache')) :
    cache'.clock = cache.clock ∧ cache'.capacity = cache.capacity ∧
      (∀ entry, cache.entries.find? key = some entry → entry.isStale cache.clock.now = true) ∧
      ∀ k, cache'.entries.find? k = if k = key then none else cache.entries.find? k := by
  unfold get at h
  split at h
  · rename_i hfind
    cases h
    refine ⟨rfl, rfl, by simp [hfind], fun k => ?_⟩
    split_ifs with hk
    · rw [hk, hfind]
    · rfl
  · rename_i entry hfind
    split_ifs at h with hstale
    · have hevict : cache.evictIfUnchanged key entry = cache.invalidate key := by
        simp only [evictIfUnchanged, hfind, if_true, invalidate]
      rw [hevict] at h
      cases h
      refine ⟨rfl, rfl, ?_, fun k => Table.find?_erase _ _ _⟩
      intro other hother
      obtain rfl : entry = other := by simpa [hfind] using hother
      exact hstale
    · cases h

@[simp] theorem put_clock (cache : Cache) (key : Key) (value : String) (ttl : Ttl) :
    (cache.put key value ttl).clock = cache.clock := by
  unfold put
  split_ifs <;> rfl

@[simp] theorem put_capacity (cache : Cache) (key : Key) (value : String) (ttl : Ttl) :
    (cache.put key value ttl).capacity = cache.capacity := by
  unfold put
  split_ifs <;> rfl

theorem find?_put {ttl : Ttl} (h : ttl.isNone = false → cache.admits key = true)
    (value : String) (k : Key) :
    (cache.put key value ttl).entries.find? k =
      if k = key then (if ttl.isNone then none else some ⟨value, cache.clock.now, ttl⟩)
      else cache.entries.find? k := by
  unfold put
  cases hn : ttl.isNone with
  | true => exact Table.find?_erase _ _ _
  | false =>
      rw [if_neg Bool.false_ne_true, if_pos (h hn)]
      exact Table.find?_insert _ _ _ _

/-- Whatever room there is, a write brings in no entry but its own. -/
theorem find?_of_find?_put {value : String} {ttl : Ttl} {entry : Entry}
    (h : (cache.put key value ttl).entries.find? k = some entry) :
    (k = key ∧ entry.value = value) ∨ cache.entries.find? k = some entry := by
  unfold put at h
  split_ifs at h
  · rw [invalidate, Table.find?_erase] at h
    split_ifs at h
    exact .inr h
  · rw [Table.find?_insert] at h
    split_ifs at h with hk
    · cases h
      exact .inl ⟨hk, rfl⟩
    · exact .inr h
  · exact .inr h

/-- Whatever room there is, a write concerns its own key alone. -/
theorem find?_put_of_ne {value : String} {ttl : Ttl} (h : k ≠ key) :
    (cache.put key value ttl).entries.find? k = cache.entries.find? k := by
  unfold put
  split_ifs
  · exact (Table.find?_erase _ _ _).trans (if_neg h)
  · exact (Table.find?_insert _ _ _ _).trans (if_neg h)
  · rfl

theorem find?_put_self {value : String} {ttl : Ttl} {entry : Entry}
    (h : (cache.put key value ttl).entries.find? key = some entry) :
    entry = ⟨value, cache.clock.now, ttl⟩ := by
  unfold put at h
  split_ifs at h with hn hadmits
  · simp [invalidate, Table.find?_erase] at h
  · rw [Table.find?_insert, if_pos rfl] at h
    exact (Option.some.inj h).symm
  · exact (hadmits (by simp [admits, Table.contains, h])).elim

theorem find?_invalidate (cache : Cache) (key k : Key) :
    (cache.invalidate key).entries.find? k =
      if k = key then none else cache.entries.find? k :=
  Table.find?_erase _ _ _

theorem find?_invalidateSubject (cache : Cache) (whom : Subject) (k : Key) :
    (cache.invalidateSubject whom).entries.find? k =
      if k.mentions whom then none else cache.entries.find? k := by
  rw [invalidateSubject, Table.find?_filter]
  cases k.mentions whom <;> cases cache.entries.find? k <;> simp [Option.filter]

end Cache

theorem Ttl.isExpired_mono {ttl : Ttl} {written now later : UInt64}
    (h : ttl.isExpired written now = true) (hle : now.toNat ≤ later.toNat) :
    ttl.isExpired written later = true := by
  simp only [isExpired, decide_eq_true_eq] at h ⊢
  omega

theorem Ttl.isExpired_of_isNone {ttl : Ttl} (h : ttl.isNone = true) (written now : UInt64) :
    ttl.isExpired written now = true := by
  have hzero : ttl.millis = 0 := by simpa [isNone] using h
  simp [isExpired, hzero]

/-- What a token asks for in a context, and the subjects that it is asked for. -/
structure Ask where
  expansion : String
  identifier : String
  relational : Bool
  primary : Option Subject
  target : Option Subject
  deriving DecidableEq

def Ask.of (token : Token) (context : Context) : Ask where
  expansion := token.expansion
  identifier := token.identifier
  relational := token.relational
  primary := context.primary
  target := if token.relational then context.secondary else none

theorem Context.exists_relation {context : Context} (h : context.isRelational = true) :
    ∃ viewer target, context.primary = some viewer ∧ context.secondary = some target := by
  obtain ⟨target, ht⟩ := Option.isSome_iff_exists.mp h
  obtain ⟨viewer, hv⟩ := Option.isSome_iff_exists.mp (context.primary_of_secondary h)
  exact ⟨viewer, target, hv, ht⟩

namespace Key

variable {t u : Token} {c d : Context}

theorem ofToken_relational {viewer target : Subject} (ht : t.relational = true)
    (hv : c.primary = some viewer) (hs : c.secondary = some target) :
    ofToken t c = relational viewer target t.key := by
  simp [ofToken, Context.relation, ht, hv, hs]

theorem ofToken_plain (ht : t.relational = false) :
    ofToken t c = match c.primary with
      | some whom => subject whom t.key
      | none => global t.key := by
  cases h : c.primary <;> simp [ofToken, ht, h]

theorem relational_ofToken_eq_iff (ht : t.Parsed) (hu : u.Parsed) (hr : t.relational = true)
    (hs : u.relational = true) (hc : c.isRelational = true) (hd : d.isRelational = true) :
    ofToken t c = ofToken u d ↔ Ask.of t c = Ask.of u d := by
  obtain ⟨v, w, hv, hw⟩ := Context.exists_relation hc
  obtain ⟨x, y, hx, hy⟩ := Context.exists_relation hd
  rw [ofToken_relational hr hv hw, ofToken_relational hs hx hy]
  simp only [Ask.of, relational.injEq, Ask.mk.injEq, hr, hs, hv, hw, hx, hy, if_true,
    Option.some.injEq]
  constructor
  · intro h
    obtain ⟨rfl, rfl, hk⟩ := h
    obtain ⟨he, hi, -⟩ := ht.alike_of_key_eq hu (hr.trans hs.symm) hk
    exact ⟨he, hi, trivial, rfl, rfl⟩
  · intro h
    obtain ⟨he, hi, -, rfl, rfl⟩ := h
    exact ⟨rfl, rfl, Token.Alike.key_eq ⟨he, hi, hr.trans hs.symm⟩⟩

theorem plain_ofToken_eq_iff (ht : t.Parsed) (hu : u.Parsed) (hr : t.relational = false)
    (hs : u.relational = false) : ofToken t c = ofToken u d ↔ Ask.of t c = Ask.of u d := by
  have hkey : t.key = u.key ↔ t.expansion = u.expansion ∧ t.identifier = u.identifier := by
    constructor
    · intro hk
      obtain ⟨he, hi, -⟩ := ht.alike_of_key_eq hu (hr.trans hs.symm) hk
      exact ⟨he, hi⟩
    · intro h
      obtain ⟨he, hi⟩ := h
      exact Token.Alike.key_eq ⟨he, hi, hr.trans hs.symm⟩
  rw [ofToken_plain hr, ofToken_plain hs]
  simp only [Ask.of, Ask.mk.injEq, hr, hs]
  cases c.primary <;> cases d.primary <;> simp [hkey, and_comm, and_assoc]

/-- Keys separate whatever may be answered differently, and nothing else. -/
theorem ofToken_eq_iff (ht : t.Parsed) (hu : u.Parsed) (hc : Passes t c) (hd : Passes u d) :
    ofToken t c = ofToken u d ↔ Ask.of t c = Ask.of u d := by
  cases hr : t.relational <;> cases hs : u.relational
  · exact plain_ofToken_eq_iff ht hu hr hs
  · obtain ⟨x, y, hx, hy⟩ := Context.exists_relation (hd hs)
    rw [ofToken_plain hr, ofToken_relational hs hx hy]
    cases c.primary <;> simp [Ask.of, hr, hs]
  · obtain ⟨v, w, hv, hw⟩ := Context.exists_relation (hc hr)
    rw [ofToken_relational hr hv hw, ofToken_plain hs]
    cases d.primary <;> simp [Ask.of, hr, hs]
  · exact relational_ofToken_eq_iff ht hu hr hs (hc hr) (hd hs)

/-- The same is asked for the same subjects exactly if the tokens are alike and the contexts agree
on whom such tokens are answered for. -/
theorem ask_of_eq_iff (hc : Passes t c) (hd : Passes u d) : Ask.of t c = Ask.of u d ↔
    t.Alike u ∧ (t.relational = true → c.relation = d.relation) ∧
      (t.relational = false → c.primary = d.primary) := by
  have hask : Ask.of t c = Ask.of u d ↔ t.Alike u ∧ c.primary = d.primary ∧
      (if t.relational then c.secondary else none) = if u.relational then d.secondary else none := by
    simp only [Ask.of, Ask.mk.injEq, Token.Alike, and_assoc]
  rw [hask]
  refine and_congr_right fun halike => ?_
  have hsame := halike.2.2
  cases hr : t.relational with
  | false => simp [← hsame, hr]
  | true =>
      obtain ⟨v, w, hv, hw⟩ := Context.exists_relation (hc hr)
      obtain ⟨x, y, hx, hy⟩ := Context.exists_relation (hd (hsame ▸ hr))
      simp [← hsame, hr, Context.relation, hv, hw, hx, hy]

/-- The keys of tokens that pass the gate are the same exactly if the tokens are alike and, where
they are relational, the contexts have the same viewer and target, and where they are plain, the
same subject or none. Whatever is asked relationally is kept for a viewer and a target. -/
theorem ofToken_separates (ht : t.Parsed) (hu : u.Parsed) (hc : Passes t c) (hd : Passes u d) :
    (ofToken t c = ofToken u d ↔ t.Alike u ∧ (t.relational = true → c.relation = d.relation) ∧
      (t.relational = false → c.primary = d.primary)) ∧
    (t.relational = true → ∃ viewer target, c.relation = some (viewer, target) ∧
      ofToken t c = relational viewer target t.key) := by
  refine ⟨(ofToken_eq_iff ht hu hc hd).trans (ask_of_eq_iff hc hd), ?_⟩
  intro hr
  obtain ⟨viewer, target, hv, hw⟩ := Context.exists_relation (hc hr)
  exact ⟨viewer, target, by simp [Context.relation, hv, hw], ofToken_relational hr hv hw⟩

/-- Two tokens of one full key are kept apart, though they are asked for the same two subjects. -/
theorem ofToken_shouted_ne_marked :
    Token.shouted.key = Token.marked.key ∧
      ofToken .shouted (.ofRelation ⟨1⟩ ⟨2⟩) ≠ ofToken .marked (.ofRelation ⟨1⟩ ⟨2⟩) := by
  have hseparates := (ofToken_separates ⟨_, Token.shouted_readBy⟩ ⟨_, Token.marked_readBy⟩
    (c := .ofRelation ⟨1⟩ ⟨2⟩) (d := .ofRelation ⟨1⟩ ⟨2⟩) (fun _ => rfl) (fun _ => rfl)).1
  refine ⟨by decide, fun hsame => ?_⟩
  exact absurd (hseparates.mp hsame).1.2.2 (by decide)

theorem mentions_ofToken (hc : Passes t c) (whom : Subject) :
    (ofToken t c).mentions whom = true ↔
      c.primary = some whom ∨ (t.relational = true ∧ c.secondary = some whom) := by
  cases hr : t.relational with
  | true =>
      obtain ⟨v, w, hv, hw⟩ := Context.exists_relation (hc hr)
      rw [ofToken_relational hr hv hw, hv, hw]
      simp [mentions]
  | false =>
      rw [ofToken_plain hr]
      cases c.primary <;> simp [mentions]

end Key
end Placeholder
