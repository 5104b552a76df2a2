import Placeholder.Proofs.Caching
import Mathlib.Data.Finset.Card
import Mathlib.Data.List.Induction

/-!
# What a cache has kept

A cache with room for what it is given is told completely by its history. A value is found under a
key if it was the last one stored there, nothing has ended its use, and it was fresh at every
question for its key, the present one included: a question that finds it stale drops it, even if the
clock goes back later. On a clock that never goes back the earlier questions do not matter.
-/
namespace Placeholder

/-- The value may be served at a reading of the clock. -/
def Entry.Fresh (entry : Entry) (now : UInt64) : Prop :=
  now.toNat - entry.written.toNat < entry.ttl.millis.toNat

theorem Entry.isStale_eq_false_iff {entry : Entry} {now : UInt64} :
    entry.isStale now = false ↔ entry.Fresh now := by
  simp [isStale, Ttl.isExpired, Fresh]

theorem Entry.Fresh.earlier {entry : Entry} {now earlier : UInt64} (h : entry.Fresh now)
    (hle : earlier.toNat ≤ now.toNat) : entry.Fresh earlier := by
  unfold Fresh at *
  omega

namespace Cache

/-- Whatever can be done with a cache and its clock. -/
inductive Operation where
  | put (key : Key) (value : String) (ttl : Ttl)
  | get (key : Key)
  | invalidate (key : Key)
  | invalidateSubject (whom : Subject)
  | clear
  | size
  | advance (span : Duration)
  | setClock (reading : UInt64)

namespace Operation

/-- The cache that an operation leaves. -/
def apply (cache : Cache) : Operation → Cache
  | put key value ttl => cache.put key value ttl
  | get key => (cache.get key).2
  | invalidate key => cache.invalidate key
  | invalidateSubject whom => cache.invalidateSubject whom
  | clear => cache.clear
  | size => cache
  | advance span => cache.advance span
  | setClock reading => cache.setClock reading

def move (clock : Clock) : Operation → Clock
  | advance span => clock.advance span
  | setClock reading => clock.set reading
  | put _ _ _ | get _ | invalidate _ | invalidateSubject _ | clear | size => clock

/-- What takes a stored value out of use: another write to its key, whether that one is stored or
not, or that it is dropped with its key, with a subject of its key, or with everything. -/
inductive Ends (key : Key) : Operation → Prop
  | put (value : String) (ttl : Ttl) : Ends key (.put key value ttl)
  | invalidate : Ends key (.invalidate key)
  | invalidateSubject {whom : Subject} : key.mentions whom = true →
      Ends key (.invalidateSubject whom)
  | clear : Ends key .clear

def isGet : Operation → Bool
  | get _ => true
  | _ => false

end Operation

/-- The cache after some operations. -/
def after (cache : Cache) (past : List Operation) : Cache := past.foldl Operation.apply cache

@[simp] theorem after_concat (cache : Cache) (past : List Operation) (op : Operation) :
    cache.after (past ++ [op]) = op.apply (cache.after past) := by
  simp [after]

/-- What the clock reads after some operations. -/
def reading (clock : Clock) (past : List Operation) : UInt64 :=
  (past.foldl Operation.move clock).now

/-! ## What a history says -/

/-- An entry was stored under a key between two stretches of a history and has stayed in use. -/
structure LastWrite (clock : Clock) (older newer : List Operation) (key : Key)
    (entry : Entry) : Prop where
  kept : entry.ttl.isNone = false
  dated : entry.written = reading clock older
  spared : ∀ op ∈ newer, ¬ op.Ends key

def writing (older newer : List Operation) (key : Key) (entry : Entry) : List Operation :=
  older ++ .put key entry.value entry.ttl :: newer

/-- An entry is the last one that was stored under a key, and it is still in use. -/
def Written (clock : Clock) (past : List Operation) (key : Key) (entry : Entry) : Prop :=
  ∃ older newer, past = writing older newer key entry ∧ LastWrite clock older newer key entry

/-- An entry is the last one that was stored under a key, it is still in use, and it was fresh
whenever its key was asked for since. -/
def Survives (clock : Clock) (past : List Operation) (key : Key) (entry : Entry) : Prop :=
  ∃ older newer, past = writing older newer key entry ∧ LastWrite clock older newer key entry ∧
    ∀ before rest, newer = before ++ .get key :: rest →
      entry.Fresh (reading clock (writing older before key entry))

/-- Never in the history do more keys have a value than the cache has places. -/
def Fits (capacity : UInt64) (clock : Clock) (past : List Operation) : Prop :=
  ∀ older newer, past = older ++ newer → ∀ keys : Finset Key,
    (∀ key ∈ keys, ∃ entry, Survives clock older key entry) → keys.card ≤ capacity.toNat

def Forward (clock : Clock) (past : List Operation) : Prop :=
  Monotone fun n => (reading clock (past.take n)).toNat

variable {clock : Clock} {past : List Operation} {key : Key} {entry : Entry} {op : Operation}

theorem concat_eq_writing_iff {older newer : List Operation} :
    past ++ [op] = writing older newer key entry ↔
      (newer = [] ∧ past = older ∧ op = .put key entry.value entry.ttl) ∨
        ∃ middle, newer = middle ++ [op] ∧ past = writing older middle key entry := by
  rcases newer.eq_nil_or_concat' with rfl | ⟨middle, last, rfl⟩
  · simp [writing]
  · have hsplit : writing older (middle ++ [last]) key entry =
        writing older middle key entry ++ [last] := by simp [writing]
    rw [hsplit]
    constructor
    · intro h
      obtain ⟨rfl, hlast⟩ := List.append_inj' h rfl
      cases hlast
      exact .inr ⟨middle, rfl, rfl⟩
    · rintro (⟨h, -⟩ | ⟨_, h, rfl⟩)
      · simp at h
      · obtain ⟨rfl, hlast⟩ := List.append_inj' h rfl
        cases hlast
        rfl

theorem LastWrite.concat_iff {older newer : List Operation} :
    LastWrite clock older (newer ++ [op]) key entry ↔
      LastWrite clock older newer key entry ∧ ¬ op.Ends key := by
  constructor
  · intro h
    exact ⟨⟨h.kept, h.dated, fun x hx => h.spared x (List.mem_append_left _ hx)⟩,
      h.spared op (by simp)⟩
  · rintro ⟨h, hop⟩
    refine ⟨h.kept, h.dated, ?_⟩
    intro x hx
    rcases List.mem_append.mp hx with hx | hx
    · exact h.spared x hx
    · rwa [List.mem_singleton.mp hx]

/-- An operation stores an entry at a reading of the clock. -/
def Stores (op : Operation) (now : UInt64) (key : Key) (entry : Entry) : Prop :=
  op = .put key entry.value entry.ttl ∧ entry.ttl.isNone = false ∧ entry.written = now

theorem Stores.ends {now : UInt64} (h : Stores op now key entry) : op.Ends key := by
  rw [h.1]
  exact .put _ _

theorem Stores.unique {now : UInt64} {other : Entry} (h : Stores op now key entry)
    (hother : Stores op now key other) : entry = other := by
  obtain ⟨rfl, -, hwritten⟩ := h
  obtain ⟨hop, -, hwritten'⟩ := hother
  cases entry
  cases other
  simp_all

theorem Stores.lastWrite (h : Stores op (reading clock past) key entry) :
    past ++ [op] = writing past [] key entry ∧ LastWrite clock past [] key entry :=
  ⟨by rw [writing, h.1], h.2.1, h.2.2, by simp⟩

/-- What is written last after one more operation. -/
theorem written_concat_iff :
    Written clock (past ++ [op]) key entry ↔ Stores op (reading clock past) key entry ∨
      (Written clock past key entry ∧ ¬ op.Ends key) := by
  constructor
  · rintro ⟨older, newer, he, h⟩
    rcases concat_eq_writing_iff.mp he with ⟨rfl, rfl, hop⟩ | ⟨middle, rfl, rfl⟩
    · exact .inl ⟨hop, h.kept, h.dated⟩
    · obtain ⟨h, hop⟩ := LastWrite.concat_iff.mp h
      exact .inr ⟨⟨older, middle, rfl, h⟩, hop⟩
  · rintro (h | ⟨⟨older, newer, rfl, h⟩, hop⟩)
    · exact ⟨past, [], h.lastWrite⟩
    · exact ⟨older, newer ++ [op], concat_eq_writing_iff.mpr (.inr ⟨newer, rfl, rfl⟩),
        LastWrite.concat_iff.mpr ⟨h, hop⟩⟩

/-- What survives one more operation. -/
theorem survives_concat_iff :
    Survives clock (past ++ [op]) key entry ↔ Stores op (reading clock past) key entry ∨
      (Survives clock past key entry ∧ ¬ op.Ends key ∧
        (op = .get key → entry.Fresh (reading clock past))) := by
  constructor
  · rintro ⟨older, newer, he, h, hfresh⟩
    rcases concat_eq_writing_iff.mp he with ⟨rfl, rfl, hop⟩ | ⟨middle, rfl, rfl⟩
    · exact .inl ⟨hop, h.kept, h.dated⟩
    · obtain ⟨h, hop⟩ := LastWrite.concat_iff.mp h
      refine .inr ⟨⟨older, middle, rfl, h, ?_⟩, hop, ?_⟩
      · rintro before rest rfl
        exact hfresh before (rest ++ [op]) (by simp)
      · rintro rfl
        exact hfresh middle [] rfl
  · rintro (h | ⟨⟨older, newer, rfl, h, hfresh⟩, hop, hget⟩)
    · obtain ⟨hsplit, hlast⟩ := h.lastWrite
      exact ⟨past, [], hsplit, hlast, by simp⟩
    · refine ⟨older, newer ++ [op], concat_eq_writing_iff.mpr (.inr ⟨newer, rfl, rfl⟩),
        LastWrite.concat_iff.mpr ⟨h, hop⟩, ?_⟩
      intro before rest he
      rcases rest.eq_nil_or_concat' with rfl | ⟨rest, last, rfl⟩
      · obtain ⟨rfl, hlast⟩ := List.append_inj' he rfl
        exact hget (List.singleton_inj.mp hlast)
      · rw [← List.cons_append, ← List.append_assoc] at he
        exact hfresh before rest (List.append_inj' he rfl).1

/-! ## What the cache holds -/

/-- The cache holds what the history says. -/
structure Agrees (capacity : UInt64) (clock : Clock) (past : List Operation)
    (cache : Cache) : Prop where
  capacity_eq : cache.capacity = capacity
  now_eq : cache.clock = past.foldl Operation.move clock
  find?_iff : ∀ key entry, cache.entries.find? key = some entry ↔ Survives clock past key entry

namespace Agrees

variable {capacity : UInt64} {cache : Cache}

theorem now (h : Agrees capacity clock past cache) : cache.clock.now = reading clock past :=
  congrArg Clock.now h.now_eq

theorem empty (capacity : UInt64) (clock : Clock) :
    Agrees capacity clock [] (.empty capacity clock) := by
  refine ⟨rfl, rfl, fun key entry => ?_⟩
  constructor
  · intro h
    cases h
  · rintro ⟨older, newer, he, -⟩
    simp [writing] at he

theorem mem_keys_iff (h : Agrees capacity clock past cache) (key : Key) :
    key ∈ cache.entries.keys.toFinset ↔ ∃ entry, Survives clock past key entry := by
  rw [List.mem_toFinset, Table.keys, List.mem_map]
  constructor
  · rintro ⟨⟨_, entry⟩, hmem, rfl⟩
    exact ⟨entry, (h.find?_iff _ _).mp (Table.find?_of_mem_entries hmem)⟩
  · rintro ⟨entry, hs⟩
    exact ⟨(key, entry), Table.mem_entries_of_find? ((h.find?_iff _ _).mpr hs), rfl⟩

theorem card_keys (cache : Cache) : cache.entries.keys.toFinset.card = cache.size :=
  (List.toFinset_card_of_nodup cache.entries.nodup_keys).trans (List.length_map _)

theorem admits (h : Agrees capacity clock past cache) {value : String} {ttl : Ttl}
    (hfits : Fits capacity clock (past ++ [.put key value ttl])) (hkept : ttl.isNone = false) :
    cache.admits key = true := by
  by_cases hmem : key ∈ cache.entries.keys.toFinset
  · obtain ⟨entry, hs⟩ := (h.mem_keys_iff key).mp hmem
    simp [Cache.admits, Table.contains, (h.find?_iff key entry).mpr hs]
  · have hcard := hfits _ [] (List.append_nil _).symm (insert key cache.entries.keys.toFinset) (by
      intro k hk
      rcases Finset.mem_insert.mp hk with rfl | hk
      · exact ⟨⟨value, reading clock past, ttl⟩, survives_concat_iff.mpr (.inl ⟨rfl, hkept, rfl⟩)⟩
      · obtain ⟨entry, hs⟩ := (h.mem_keys_iff k).mp hk
        refine ⟨entry, survives_concat_iff.mpr (.inr ⟨hs, ?_, by simp⟩)⟩
        rintro ⟨⟩
        exact hmem hk)
    rw [Finset.card_insert_of_notMem hmem, card_keys, ← h.capacity_eq] at hcard
    simp only [Cache.admits, Bool.or_eq_true, decide_eq_true_eq]
    right
    exact hcard

/-- An operation other than a question keeps the agreement if it has under each key what it stores
there, nothing if it ends the use of what was there, and else what was there before. -/
theorem concat (h : Agrees capacity clock past cache)
    (hcapacity : (op.apply cache).capacity = cache.capacity)
    (hclock : (op.apply cache).clock = op.move cache.clock) (hget : ∀ key, op ≠ .get key)
    (hstored : ∀ key entry, Stores op (reading clock past) key entry →
      (op.apply cache).entries.find? key = some entry)
    (hended : ∀ key, op.Ends key → (∀ entry, ¬ Stores op (reading clock past) key entry) →
      (op.apply cache).entries.find? key = none)
    (hspared : ∀ key, ¬ op.Ends key →
      (op.apply cache).entries.find? key = cache.entries.find? key) :
    Agrees capacity clock (past ++ [op]) (op.apply cache) := by
  refine ⟨hcapacity.trans h.capacity_eq, by simp [hclock, h.now_eq], fun key entry => ?_⟩
  rw [survives_concat_iff]
  by_cases hends : op.Ends key
  · by_cases hstores : ∃ other, Stores op (reading clock past) key other
    · obtain ⟨other, hother⟩ := hstores
      rw [hstored key other hother, Option.some.injEq]
      constructor
      · rintro rfl
        exact .inl hother
      · rintro (hstores | hs)
        · exact hother.unique hstores
        · exact (hs.2.1 hends).elim
    · have hnone := not_exists.mp hstores
      simp [hended key hends hnone, hnone, hends]
  · have hnone : ¬ Stores op (reading clock past) key entry := fun hs => hends hs.ends
    simp [hspared key hends, h.find?_iff, hnone, hends, hget]

theorem concat_of_drops (h : Agrees capacity clock past cache)
    (hcapacity : (op.apply cache).capacity = cache.capacity)
    (hclock : (op.apply cache).clock = op.move cache.clock) (hget : ∀ key, op ≠ .get key)
    (hput : ∀ key value ttl, op ≠ .put key value ttl)
    (hended : ∀ key, op.Ends key → (op.apply cache).entries.find? key = none)
    (hspared : ∀ key, ¬ op.Ends key →
      (op.apply cache).entries.find? key = cache.entries.find? key) :
    Agrees capacity clock (past ++ [op]) (op.apply cache) := by
  refine h.concat hcapacity hclock hget ?_ (fun key hends _ => hended key hends) hspared
  intro key entry hstores
  exact (hput _ _ _ hstores.1).elim

theorem concat_put (h : Agrees capacity clock past cache) {value : String} {ttl : Ttl}
    (hfits : Fits capacity clock (past ++ [.put key value ttl])) :
    Agrees capacity clock (past ++ [.put key value ttl]) (cache.put key value ttl) := by
  have hfind := find?_put (h.admits hfits) value
  apply @concat clock past (.put key value ttl) capacity cache h
  · exact put_capacity _ _ _ _
  · exact put_clock _ _ _ _
  · simp
  · rintro k entry ⟨hop, hkept, hwritten⟩
    cases hop
    simp [Operation.apply, hfind, hkept, ← hwritten, h.now]
  · rintro k hends hnone
    cases hends
    have hunkept : ttl.isNone = true := by
      by_contra hkept
      exact hnone ⟨value, reading clock past, ttl⟩ ⟨rfl, by simpa using hkept, rfl⟩
    simp [Operation.apply, hfind, hunkept]
  · intro k hspared
    have hne : k ≠ key := by
      rintro rfl
      exact hspared (.put _ _)
    simp [Operation.apply, hfind, hne]

/-- A question drops what is stale under its key, and nothing else. -/
theorem concat_get (h : Agrees capacity clock past cache) (asked : Key) :
    Agrees capacity clock (past ++ [.get asked]) (cache.get asked).2 := by
  have hiff : ∀ k entry, Survives clock (past ++ [.get asked]) k entry ↔
      cache.entries.find? k = some entry ∧ (asked = k → entry.Fresh cache.clock.now) := by
    intro k entry
    have hstores : ¬ Stores (.get asked) (reading clock past) k entry := by
      rintro ⟨hop, -⟩
      cases hop
    have hends : ¬ (Operation.get asked).Ends k := by rintro ⟨⟩
    simp [survives_concat_iff, hstores, hends, h.find?_iff, h.now]
  rcases hget : cache.get asked with ⟨found, cache'⟩
  cases found with
  | some text =>
      obtain rfl := get_hit hget
      obtain ⟨kept, hfind, hfresh, -⟩ := get_fst_eq_some_iff.mp (congrArg Prod.fst hget)
      refine ⟨h.capacity_eq, by simp [h.now_eq, Operation.move], fun k entry => ?_⟩
      rw [hiff, iff_self_and]
      rintro hk rfl
      obtain rfl := Option.some.inj (hfind.symm.trans hk)
      exact Entry.isStale_eq_false_iff.mp hfresh
  | none =>
      obtain ⟨hclock, hcapacity, hstale, hfind⟩ := get_none hget
      refine ⟨hcapacity.trans h.capacity_eq, by simp [hclock, h.now_eq, Operation.move],
        fun k entry => ?_⟩
      rw [hiff, hfind]
      by_cases hk : k = asked
      · subst hk
        simp only [if_true, reduceCtorEq, false_iff, not_and, forall_const]
        intro hentry hfresh
        have := hstale entry hentry
        rw [Entry.isStale_eq_false_iff.mpr hfresh] at this
        cases this
      · simp [hk, Ne.symm hk]

/-- Every operation keeps the agreement, as long as there is room. -/
theorem step (h : Agrees capacity clock past cache) (op : Operation)
    (hfits : Fits capacity clock (past ++ [op])) :
    Agrees capacity clock (past ++ [op]) (op.apply cache) := by
  cases op with
  | put key value ttl => exact h.concat_put hfits
  | get key => exact h.concat_get key
  | invalidate key =>
      apply h.concat_of_drops rfl rfl (by simp) (by simp)
      · rintro k ⟨⟩
        simp [Operation.apply, find?_invalidate]
      · intro k hspared
        have hne : k ≠ key := by
          rintro rfl
          exact hspared .invalidate
        simp [Operation.apply, find?_invalidate, hne]
  | invalidateSubject whom =>
      apply h.concat_of_drops rfl rfl (by simp) (by simp)
      · rintro k ⟨⟩
        rename_i hmentions
        simp [Operation.apply, find?_invalidateSubject, hmentions]
      · intro k hspared
        have hmentions : k.mentions whom ≠ true := fun hm => hspared (.invalidateSubject hm)
        simp [Operation.apply, find?_invalidateSubject, hmentions]
  | clear =>
      apply h.concat_of_drops rfl rfl (by simp) (by simp)
      · intro k _
        rfl
      · intro k hspared
        exact (hspared .clear).elim
  | size | advance | setClock =>
      apply h.concat_of_drops rfl rfl (by simp) (by simp)
      · rintro k ⟨⟩
      · intro k _
        rfl

end Agrees

theorem Fits.older {capacity : UInt64} {older newer : List Operation}
    (h : Fits capacity clock (older ++ newer)) : Fits capacity clock older := by
  rintro first second rfl
  exact h first (second ++ newer) (List.append_assoc ..)

theorem fits_of_puts {capacity : UInt64} (keys : Finset Key)
    (hputs : ∀ key value ttl, .put key value ttl ∈ past → key ∈ keys)
    (hcard : keys.card ≤ capacity.toNat) : Fits capacity clock past := by
  rintro older newer rfl held hheld
  refine (Finset.card_le_card ?_).trans hcard
  intro key hkey
  obtain ⟨entry, first, second, rfl, -⟩ := hheld key hkey
  exact hputs key entry.value entry.ttl (by simp [writing])

/-- After any operations a cache with room holds what survives of them. -/
theorem after_agrees {capacity : UInt64} (h : Fits capacity clock past) :
    Agrees capacity clock past ((empty capacity clock).after past) := by
  induction past using List.reverseRecOn with
  | nil => exact .empty capacity clock
  | append_singleton past op ih =>
      rw [after_concat]
      exact (ih h.older).step op h

/-! ## A clock that never goes back -/

theorem Forward.reading_le {older newer : List Operation} (h : Forward clock (older ++ newer)) :
    (reading clock older).toNat ≤ (reading clock (older ++ newer)).toNat := by
  have hlength : older.length ≤ (older ++ newer).length := by simp
  have hle := h hlength
  simpa only [List.take_left', List.take_length] using hle

/-- What is fresh now was fresh at every question before. -/
theorem survives_iff_written (h : Forward clock past) (hfresh : entry.Fresh (reading clock past)) :
    Survives clock past key entry ↔ Written clock past key entry := by
  constructor
  · rintro ⟨older, newer, he, hlast, -⟩
    exact ⟨older, newer, he, hlast⟩
  · rintro ⟨older, newer, rfl, hlast⟩
    refine ⟨older, newer, rfl, hlast, ?_⟩
    rintro before rest rfl
    have hsplit : writing older (before ++ .get key :: rest) key entry =
        writing older before key entry ++ .get key :: rest := by simp [writing]
    rw [hsplit] at h hfresh
    exact hfresh.earlier h.reading_le

def withoutGets (past : List Operation) : List Operation := past.filter fun op => !op.isGet

theorem withoutGets_concat (past : List Operation) (op : Operation) :
    withoutGets (past ++ [op]) =
      if op.isGet then withoutGets past else withoutGets past ++ [op] := by
  cases h : op.isGet <;> simp [withoutGets, h]

theorem reading_withoutGets (clock : Clock) (past : List Operation) :
    reading clock (withoutGets past) = reading clock past := by
  suffices h : (withoutGets past).foldl Operation.move clock =
      past.foldl Operation.move clock from congrArg Clock.now h
  induction past using List.reverseRecOn with
  | nil => rfl
  | append_singleton past op ih =>
      rw [withoutGets_concat]
      cases op with
      | get key => simpa [Operation.isGet, Operation.move] using ih
      | put | invalidate | invalidateSubject | clear | size | advance | setClock =>
          simp [Operation.isGet, ih]

/-- Questions neither write nor end the use of what was written. -/
theorem written_withoutGets_iff :
    Written clock (withoutGets past) key entry ↔ Written clock past key entry := by
  induction past using List.reverseRecOn with
  | nil => rfl
  | append_singleton past op ih =>
      rw [withoutGets_concat, written_concat_iff]
      cases hget : op.isGet with
      | false => simp [written_concat_iff, reading_withoutGets, ih]
      | true =>
          obtain ⟨asked, rfl⟩ : ∃ asked, op = .get asked := by
            cases op <;> simp_all [Operation.isGet]
          have hstores : ¬ Stores (.get asked) (reading clock past) key entry := by
            rintro ⟨hop, -⟩
            cases hop
          have hends : ¬ (Operation.get asked).Ends key := by rintro ⟨⟩
          simp [hstores, hends, ih]

theorem get_after_eq_some_iff {capacity : UInt64} (h : Fits capacity clock past) (value : String) :
    (((empty capacity clock).after past).get key).1 = some value ↔
      ∃ entry, entry.value = value ∧ Survives clock past key entry ∧
        entry.Fresh (reading clock past) := by
  have hagrees := after_agrees h
  rw [get_fst_eq_some_iff]
  refine exists_congr fun entry => ?_
  rw [hagrees.find?_iff, Entry.isStale_eq_false_iff, hagrees.now]
  tauto

/-- A cache with room is told by its history. What a question is answered is the last value stored
under the key, if its use has not ended and it was fresh at every question for the key since, this
one included. The size counts the keys with such a value, fresh or stale by now. And if the clock
never goes back, it does not matter which questions there were before. -/
theorem answers_of_history {capacity : UInt64} (h : Fits capacity clock past) :
    (∀ key value, (((empty capacity clock).after past).get key).1 = some value ↔
      ∃ entry, entry.value = value ∧ Survives clock past key entry ∧
        entry.Fresh (reading clock past)) ∧
    (∃ keys : Finset Key, (∀ key, key ∈ keys ↔ ∃ entry, Survives clock past key entry) ∧
      ((empty capacity clock).after past).size = keys.card) ∧
    ∀ other, Fits capacity clock other → Forward clock past → Forward clock other →
      withoutGets other = withoutGets past →
      ∀ key, (((empty capacity clock).after other).get key).1 =
        (((empty capacity clock).after past).get key).1 := by
  refine ⟨fun key value => get_after_eq_some_iff h value, ?_, ?_⟩
  · have hagrees := after_agrees h
    exact ⟨_, hagrees.mem_keys_iff, (Agrees.card_keys _).symm⟩
  · intro other hother hforward hforward' hsame key
    have hreading : reading clock other = reading clock past := by
      rw [← reading_withoutGets, hsame, reading_withoutGets]
    apply Option.ext
    intro value
    rw [get_after_eq_some_iff hother, get_after_eq_some_iff h, hreading]
    refine exists_congr fun entry => and_congr_right fun _ => and_congr_left fun hfresh => ?_
    rw [survives_iff_written hforward hfresh, survives_iff_written hforward' (hreading ▸ hfresh),
      ← written_withoutGets_iff, hsame, written_withoutGets_iff]

def greeting : Key := .global "a_b"

def askedTwice : List Operation :=
  [.put greeting "v" .second, .setClock 500, .get greeting, .setClock 999]

def askedOnce : List Operation := [.put greeting "v" .second, .setClock 500, .setClock 999]

theorem askedTwice_fits : Fits 1 ⟨0⟩ askedTwice :=
  fits_of_puts {greeting} (by simp +contextual [askedTwice]) (by decide)

theorem askedOnce_fits : Fits 1 ⟨0⟩ askedOnce :=
  fits_of_puts {greeting} (by simp +contextual [askedOnce]) (by decide)

theorem askedTwice_forward : Forward ⟨0⟩ askedTwice := by
  refine monotone_nat_of_le_succ fun n => ?_
  match n with
  | 0 | 1 | 2 | 3 => decide
  | n + 4 => simp [askedTwice]

theorem askedOnce_forward : Forward ⟨0⟩ askedOnce := by
  refine monotone_nat_of_le_succ fun n => ?_
  match n with
  | 0 | 1 | 2 => decide
  | n + 3 => simp [askedOnce]

/-- The value survives its first question and is found by the second, as it is without the first. -/
theorem askedTwice_found :
    (∃ entry, entry.value = "v" ∧ Survives ⟨0⟩ askedTwice greeting entry ∧
      entry.Fresh (reading ⟨0⟩ askedTwice)) ∧
    (∃ keys : Finset Key, (∀ key, key ∈ keys ↔ ∃ entry, Survives ⟨0⟩ askedTwice key entry) ∧
      ((empty 1 ⟨0⟩).after askedTwice).size = keys.card) ∧
    (((empty 1 ⟨0⟩).after askedOnce).get greeting).1 =
      (((empty 1 ⟨0⟩).after askedTwice).get greeting).1 := by
  obtain ⟨hfound, hsize, hgets⟩ := answers_of_history askedTwice_fits
  exact ⟨(hfound greeting "v").mp (by decide +kernel), hsize,
    hgets askedOnce askedOnce_fits askedTwice_forward askedOnce_forward rfl greeting⟩

/-- A question drops a stale value for good, so it shows if the clock goes back. -/
example :
    (((empty 1 ⟨0⟩).after [.put greeting "v" .second, .setClock 1000, .get greeting,
      .setClock 0]).get greeting).1 = none ∧
    (((empty 1 ⟨0⟩).after [.put greeting "v" .second, .setClock 1000,
      .setClock 0]).get greeting).1 = some "v" := by
  decide +kernel

end Cache
end Placeholder
