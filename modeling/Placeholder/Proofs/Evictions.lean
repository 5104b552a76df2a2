import Placeholder.Proofs.Keeping

/-!
# Evictions that come late

A question reads the entry under its key, judges it by the clock, and drops it if it is stale;
others may use the cache between these steps. What is dropped in the end is what was read, or an
equal entry that was written again meanwhile, and is stale either way. A cache without some stale
entry answers as it does with it: the same is found fresh in both, and remains so whatever is done
to both. Only a full cache can tell the difference, for without the entry it has a place more, so
what is written later has to find a place with it, too. What is written once the entry has been
judged is dated later and is not dropped at all.
-/
namespace Placeholder

namespace Table

variable {κ β : Type} [DecidableEq κ] {t u : Table κ β}

theorem size_erase_lt {k : κ} {v : β} (h : t.find? k = some v) : (t.erase k).size < t.size :=
  List.length_filter_lt_length_iff_exists.mpr ⟨(k, v), mem_entries_of_find? h, by simp⟩

theorem size_le_of_find? (h : ∀ k v, t.find? k = some v → u.find? k = some v) :
    t.size ≤ u.size := by
  have hsub : t.entries ⊆ u.entries := fun entry hentry =>
    mem_entries_of_find? (h entry.1 entry.2 (find?_of_mem_entries hentry))
  exact (t.nodup_keys.of_map.subperm hsub).length_le

end Table

namespace Cache

variable {cache : Cache} {key k : Key} {entry seen : Entry} {op : Operation}

/-! ## A question in steps -/

theorem get_of_stale (hread : cache.entries.find? key = some seen)
    (hstale : seen.isStale cache.clock.now = true) :
    cache.get key = (none, cache.evictIfUnchanged key seen) := by
  simp only [get, hread, hstale, if_true]

theorem find?_evictIfUnchanged (cache : Cache) (key : Key) (seen : Entry) (k : Key) :
    (cache.evictIfUnchanged key seen).entries.find? k =
      if k = key ∧ cache.entries.find? key = some seen then none else cache.entries.find? k := by
  unfold evictIfUnchanged
  by_cases hseen : cache.entries.find? key = some seen
  · simp [hseen, Table.find?_erase]
  · simp [hseen]

@[simp] theorem evictIfUnchanged_clock (cache : Cache) (key : Key) (seen : Entry) :
    (cache.evictIfUnchanged key seen).clock = cache.clock := by
  unfold evictIfUnchanged
  split_ifs <;> rfl

@[simp] theorem evictIfUnchanged_capacity (cache : Cache) (key : Key) (seen : Entry) :
    (cache.evictIfUnchanged key seen).capacity = cache.capacity := by
  unfold evictIfUnchanged
  split_ifs <;> rfl

/-! ## What one operation leaves -/

/-- A question keeps all but a stale entry of its own key. -/
theorem find?_get_iff {asked : Key} :
    (cache.get asked).2.entries.find? k = some entry ↔
      cache.entries.find? k = some entry ∧ (asked = k → entry.isStale cache.clock.now = false) := by
  rcases hget : cache.get asked with ⟨found, cache'⟩
  cases found with
  | some text =>
      obtain rfl := get_hit hget
      obtain ⟨kept, hfind, hfresh, -⟩ := get_fst_eq_some_iff.mp (congrArg Prod.fst hget)
      refine iff_self_and.mpr ?_
      rintro hk rfl
      obtain rfl := Option.some.inj (hfind.symm.trans hk)
      exact hfresh
  | none =>
      obtain ⟨-, -, hstale, hfind⟩ := get_none hget
      rw [hfind]
      by_cases hk : k = asked
      · subst hk
        simp only [if_true, reduceCtorEq, false_iff, not_and, forall_const, Bool.not_eq_false]
        exact hstale entry
      · simp [hk, Ne.symm hk]

@[simp] theorem get_clock (cache : Cache) (key : Key) : (cache.get key).2.clock = cache.clock := by
  rcases hget : cache.get key with ⟨_ | text, cache'⟩
  · exact (get_none hget).1
  · rw [get_hit hget]

@[simp] theorem get_capacity (cache : Cache) (key : Key) :
    (cache.get key).2.capacity = cache.capacity := by
  rcases hget : cache.get key with ⟨_ | text, cache'⟩
  · exact (get_none hget).2.1
  · rw [get_hit hget]

@[simp] theorem apply_clock (cache : Cache) (op : Operation) :
    (op.apply cache).clock = op.move cache.clock := by
  cases op with
  | put key value ttl => exact put_clock cache key value ttl
  | get key => exact get_clock cache key
  | invalidate | invalidateSubject | clear | size | advance | setClock => rfl

@[simp] theorem apply_capacity (cache : Cache) (op : Operation) :
    (op.apply cache).capacity = cache.capacity := by
  cases op with
  | put key value ttl => exact put_capacity cache key value ttl
  | get key => exact get_capacity cache key
  | invalidate | invalidateSubject | clear | size | advance | setClock => rfl

theorem find?_of_find?_apply (h : (op.apply cache).entries.find? key = some entry) :
    Stores op cache.clock.now key entry ∨ cache.entries.find? key = some entry := by
  cases op with
  | put other value ttl =>
      by_cases hkey : key = other
      · subst hkey
        have hentry := find?_put_self h
        refine .inl ⟨by rw [hentry], ?_, by rw [hentry]⟩
        rw [hentry]
        by_contra hnone
        rw [Bool.not_eq_false] at hnone
        simp [Operation.apply, put, hnone, find?_invalidate] at h
      · exact .inr ((find?_put_of_ne hkey).symm.trans h)
  | get asked => exact .inr (find?_get_iff.mp h).1
  | invalidate other =>
      rw [Operation.apply, find?_invalidate] at h
      split_ifs at h
      exact .inr h
  | invalidateSubject whom =>
      rw [Operation.apply, find?_invalidateSubject] at h
      split_ifs at h
      exact .inr h
  | clear => cases h
  | size | advance | setClock => exact .inr h

theorem after_append (cache : Cache) (ops others : List Operation) :
    cache.after (ops ++ others) = (cache.after ops).after others :=
  List.foldl_append

/-! ## The states of a cache -/

/-- A cache that was empty once and has been used in some way since. -/
inductive Reachable : Cache → Prop
  | empty (capacity : UInt64) (clock : Clock) : Reachable (.empty capacity clock)
  | apply (op : Operation) {cache : Cache} : Reachable cache → Reachable (op.apply cache)

theorem Reachable.after (h : cache.Reachable) (ops : List Operation) :
    (cache.after ops).Reachable := by
  induction ops generalizing cache with
  | nil => exact h
  | cons op ops ih => exact ih (.apply op h)

theorem size_put_le (h : cache.size ≤ cache.capacity.toNat) (value : String) (ttl : Ttl) :
    (cache.put key value ttl).size ≤ cache.capacity.toNat := by
  have herase : (cache.entries.erase key).size ≤ cache.entries.size := List.length_filter_le _ _
  unfold put
  split_ifs with hnone hadmits
  · exact herase.trans h
  · show (cache.entries.erase key).size + 1 ≤ _
    cases hfind : cache.entries.find? key with
    | some old => exact (Table.size_erase_lt hfind).trans_le h
    | none =>
        have hplace : cache.entries.size < cache.capacity.toNat := by
          simpa [admits, Table.contains, hfind] using hadmits
        omega
  · exact h

/-- No cache outgrows its places. -/
theorem Reachable.size_le (h : cache.Reachable) : cache.size ≤ cache.capacity.toNat := by
  induction h with
  | empty capacity clock => exact Nat.zero_le _
  | @apply op cache _ ih =>
      rw [apply_capacity]
      cases op with
      | put key value ttl => exact size_put_le ih value ttl
      | get asked =>
          refine (Table.size_le_of_find? fun k entry hfind => ?_).trans ih
          exact (find?_get_iff.mp hfind).1
      | invalidate | invalidateSubject => exact (List.length_filter_le _ _).trans ih
      | clear => exact Nat.zero_le _
      | size | advance | setClock => exact ih

/-! ## Stale entries do not show -/

/-- A cache that is like another, except that it may be without some of its stale entries. -/
structure Sheds (full lean : Cache) : Prop where
  clock_eq : lean.clock = full.clock
  capacity_eq : lean.capacity = full.capacity
  held : ∀ {key entry}, lean.entries.find? key = some entry → full.entries.find? key = some entry
  fresh : ∀ {key entry}, full.entries.find? key = some entry →
    entry.isStale full.clock.now = false → lean.entries.find? key = some entry

/-- What an operation stores finds a place in the cache. Only writes store something. -/
def hasPlace (cache : Cache) : Operation → Bool
  | .put key _ ttl => ttl.isNone || cache.admits key
  | .get _ | .invalidate _ | .invalidateSubject _ | .clear | .size | .advance _ | .setClock _ => true

/-- Whatever is stored by some operations finds a place at its time. -/
def hasPlaces (cache : Cache) : List Operation → Bool
  | [] => true
  | op :: ops => cache.hasPlace op && (op.apply cache).hasPlaces ops

theorem Forward.cons {clock : Clock} {ops : List Operation} (h : Forward clock (op :: ops)) :
    clock.now.toNat ≤ (op.move clock).now.toNat ∧ Forward (op.move clock) ops :=
  ⟨h (Nat.zero_le 1), fun _ _ hle => h (Nat.succ_le_succ hle)⟩

namespace Sheds

variable {full lean : Cache}

theorem evictIfUnchanged (hstale : seen.isStale cache.clock.now = true) :
    Sheds cache (cache.evictIfUnchanged key seen) := by
  refine ⟨evictIfUnchanged_clock _ _ _, evictIfUnchanged_capacity _ _ _, ?_, ?_⟩
  · intro k entry hfind
    rw [find?_evictIfUnchanged] at hfind
    split_ifs at hfind
    exact hfind
  · intro k entry hfind hfresh
    rw [find?_evictIfUnchanged, if_neg, hfind]
    rintro ⟨rfl, hseen⟩
    obtain rfl := Option.some.inj (hfind.symm.trans hseen)
    rw [hfresh] at hstale
    cases hstale

theorem admits (h : Sheds full lean) (hsize : full.size ≤ full.capacity.toNat)
    (hadmits : full.admits key = true) : lean.admits key = true := by
  cases hlean : lean.entries.find? key with
  | some entry => simp [Cache.admits, Table.contains, hlean]
  | none =>
      have hplace : lean.entries.size < full.capacity.toNat := by
        cases hfull : full.entries.find? key with
        | some entry =>
            have hle : lean.entries.size ≤ (full.entries.erase key).size := by
              apply Table.size_le_of_find?
              intro k other hfind
              rw [Table.find?_erase, if_neg, h.held hfind]
              rintro rfl
              rw [hlean] at hfind
              cases hfind
            exact hle.trans_lt ((Table.size_erase_lt hfull).trans_le hsize)
        | none =>
            have hfree : full.entries.size < full.capacity.toNat := by
              simpa [Cache.admits, Table.contains, hfull] using hadmits
            exact (Table.size_le_of_find? fun _ _ => h.held).trans_lt hfree
      simp [Cache.admits, h.capacity_eq, hplace]

theorem of_kept (h : Sheds full lean) (op : Operation)
    (hmove : full.clock.now.toNat ≤ (op.move full.clock).now.toNat)
    (kept : Key → Entry → Prop)
    (hkept : ∀ cache, cache.clock = full.clock → ∀ key entry,
      (op.apply cache).entries.find? key = some entry ↔
        cache.entries.find? key = some entry ∧ kept key entry) :
    Sheds (op.apply full) (op.apply lean) := by
  refine ⟨by simp [h.clock_eq], by simp [h.capacity_eq], ?_, ?_⟩
  · intro key entry hfind
    rw [hkept _ h.clock_eq] at hfind
    exact (hkept _ rfl _ _).mpr ⟨h.held hfind.1, hfind.2⟩
  · intro key entry hfind hfresh
    rw [hkept _ rfl] at hfind
    rw [apply_clock, Entry.isStale_eq_false_iff] at hfresh
    have hbefore := Entry.isStale_eq_false_iff.mpr (hfresh.earlier hmove)
    exact (hkept _ h.clock_eq _ _).mpr ⟨h.fresh hfind.1 hbefore, hfind.2⟩

theorem put (h : Sheds full lean) (hsize : full.size ≤ full.capacity.toNat) {value : String}
    {ttl : Ttl} (hplace : full.hasPlace (.put key value ttl) = true) :
    Sheds (full.put key value ttl) (lean.put key value ttl) := by
  have hfull : ttl.isNone = false → full.admits key = true := by
    intro hkept
    simpa [hasPlace, hkept] using hplace
  have hlean : ttl.isNone = false → lean.admits key = true := fun hkept =>
    h.admits hsize (hfull hkept)
  refine ⟨by simp [h.clock_eq], by simp [h.capacity_eq], ?_, ?_⟩
  · intro k entry hfind
    rw [find?_put hlean, h.clock_eq] at hfind
    rw [find?_put hfull]
    split_ifs at hfind ⊢
    · exact hfind
    · exact h.held hfind
  · intro k entry hfind hfresh
    rw [put_clock] at hfresh
    rw [find?_put hfull] at hfind
    rw [find?_put hlean, h.clock_eq]
    split_ifs at hfind ⊢
    · exact hfind
    · exact h.fresh hfind hfresh

/-- Every operation keeps the likeness, if the clock does not go back and there is a place. -/
theorem step (h : Sheds full lean) (hsize : full.size ≤ full.capacity.toNat) {op : Operation}
    (hmove : full.clock.now.toNat ≤ (op.move full.clock).now.toNat)
    (hplace : full.hasPlace op = true) : Sheds (op.apply full) (op.apply lean) := by
  cases op with
  | put key value ttl => exact h.put hsize hplace
  | get asked =>
      apply h.of_kept _ hmove fun key entry =>
        asked = key → entry.isStale full.clock.now = false
      intro cache hclock key entry
      rw [← hclock]
      exact find?_get_iff
  | invalidate other =>
      apply h.of_kept _ hmove fun key _ => key ≠ other
      intro cache _ key entry
      simp [Operation.apply, find?_invalidate, and_comm]
  | invalidateSubject whom =>
      apply h.of_kept _ hmove fun key _ => key.mentions whom = false
      intro cache _ key entry
      cases hmentions : key.mentions whom <;>
        simp [Operation.apply, find?_invalidateSubject, hmentions]
  | clear =>
      apply h.of_kept _ hmove fun _ _ => False
      intro cache _ key entry
      simp [Operation.apply, clear]
  | size | advance | setClock =>
      apply h.of_kept _ hmove fun _ _ => True
      intro cache _ key entry
      simp [Operation.apply, advance, setClock]

/-- The caches stay alike whatever is done to both. -/
theorem after {ops : List Operation} (h : Sheds full lean) (hreachable : full.Reachable)
    (hforward : Forward full.clock ops) (hplaces : full.hasPlaces ops = true) :
    Sheds (full.after ops) (lean.after ops) := by
  induction ops generalizing full lean with
  | nil => exact h
  | cons op ops ih =>
      obtain ⟨hmove, hrest⟩ := hforward.cons
      obtain ⟨hplace, hplaces⟩ := Bool.and_eq_true_iff.mp hplaces
      refine ih (h.step hreachable.size_le hmove hplace) (.apply op hreachable) ?_ hplaces
      rwa [apply_clock]

end Sheds

/-! ## What was written in between -/

/-- Nothing that is found under a key is older than a reading of the clock. -/
structure Renewed (since : UInt64) (key : Key) (cache : Cache) : Prop where
  now_le : since.toNat ≤ cache.clock.now.toNat
  written_le : ∀ {entry}, cache.entries.find? key = some entry →
    since.toNat ≤ entry.written.toNat

namespace Renewed

variable {since : UInt64}

theorem put (h : since.toNat ≤ cache.clock.now.toNat) (value : String) (ttl : Ttl) :
    Renewed since key (cache.put key value ttl) := by
  refine ⟨by rwa [put_clock], fun hfind => ?_⟩
  rw [find?_put_self hfind]
  exact h

theorem step (h : Renewed since key cache)
    (hmove : cache.clock.now.toNat ≤ (op.move cache.clock).now.toNat) :
    Renewed since key (op.apply cache) := by
  refine ⟨?_, fun hfind => ?_⟩
  · rw [apply_clock]
    exact h.now_le.trans hmove
  · rcases find?_of_find?_apply hfind with hstores | hbefore
    · rw [hstores.2.2]
      exact h.now_le
    · exact h.written_le hbefore

theorem after {ops : List Operation} (h : Renewed since key cache)
    (hforward : Forward cache.clock ops) : Renewed since key (cache.after ops) := by
  induction ops generalizing cache with
  | nil => exact h
  | cons op ops ih =>
      obtain ⟨hmove, hrest⟩ := hforward.cons
      exact ih (h.step hmove) (by rwa [apply_clock])

end Renewed

end Cache
end Placeholder
