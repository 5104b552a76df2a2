/-!
# Finite tables

A table holds at most one value per key. Its entries are a list, the last written first; what a
table means is `find?`, and the lemmas say what each operation does to it. The order of the entries
shows nowhere else.
-/
namespace Placeholder

structure Table (κ : Type) (β : Type) where
  entries : List (κ × β)
  nodup_keys : (entries.map Prod.fst).Nodup

namespace Table

variable {κ β : Type}

def empty : Table κ β := ⟨[], List.nodup_nil⟩

instance : EmptyCollection (Table κ β) := ⟨empty⟩

instance : Inhabited (Table κ β) := ⟨empty⟩

def size (t : Table κ β) : Nat := t.entries.length

/-- The keys, the last written first. -/
def keys (t : Table κ β) : List κ := t.entries.map Prod.fst

def filter (p : κ → β → Bool) (t : Table κ β) : Table κ β where
  entries := t.entries.filter fun entry => p entry.1 entry.2
  nodup_keys := t.nodup_keys.sublist ((List.filter_sublist).map Prod.fst)

variable [DecidableEq κ]

def find? (t : Table κ β) (k : κ) : Option β :=
  (t.entries.find? fun entry => decide (entry.1 = k)).map Prod.snd

def contains (t : Table κ β) (k : κ) : Bool := (t.find? k).isSome

def erase (t : Table κ β) (k : κ) : Table κ β := t.filter fun key _ => !decide (key = k)

/-- The table with a value under a key, in place of any other. -/
def insert (t : Table κ β) (k : κ) (v : β) : Table κ β where
  entries := (k, v) :: (t.erase k).entries
  nodup_keys := by
    refine List.nodup_cons.mpr ⟨?_, (t.erase k).nodup_keys⟩
    simp [erase, filter]

@[simp] theorem find?_empty (k : κ) : (empty : Table κ β).find? k = none := rfl

theorem mem_entries_of_find? {t : Table κ β} {k : κ} {v : β} (h : t.find? k = some v) :
    (k, v) ∈ t.entries := by
  obtain ⟨⟨key, value⟩, found, rfl⟩ := Option.map_eq_some_iff.mp h
  have same : key = k := by simpa using List.find?_some found
  exact same ▸ List.mem_of_find?_eq_some found

theorem find?_of_mem_entries {t : Table κ β} {k : κ} {v : β} (h : (k, v) ∈ t.entries) :
    t.find? k = some v := by
  obtain ⟨entries, distinct⟩ := t
  induction entries with
  | nil => cases h
  | cons entry rest ih =>
    obtain ⟨key, value⟩ := entry
    obtain ⟨fresh, distinct⟩ := List.nodup_cons.mp distinct
    rcases List.mem_cons.mp h with same | later
    · cases same
      simp [find?]
    · have other : key ≠ k := fun e =>
        fresh (List.mem_map.mpr ⟨(k, v), later, e.symm⟩)
      simpa [find?, other] using ih distinct later

theorem find?_eq_some_iff {t : Table κ β} {k : κ} {v : β} :
    t.find? k = some v ↔ (k, v) ∈ t.entries :=
  ⟨mem_entries_of_find?, find?_of_mem_entries⟩

theorem find?_filter (p : κ → β → Bool) (t : Table κ β) (k : κ) :
    (t.filter p).find? k = (t.find? k).filter (p k) := by
  apply Option.ext
  intro v
  rw [find?_eq_some_iff, Option.filter_eq_some_iff, find?_eq_some_iff]
  simp [filter]

theorem find?_erase (t : Table κ β) (k key : κ) :
    (t.erase k).find? key = if key = k then none else t.find? key := by
  rw [erase, find?_filter]
  by_cases h : key = k <;> cases t.find? key <;> simp [h, Option.filter]

theorem find?_insert (t : Table κ β) (k : κ) (v : β) (key : κ) :
    (t.insert k v).find? key = if key = k then some v else t.find? key := by
  by_cases h : key = k
  · simp [find?, insert, h]
  · have other : ¬ k = key := fun e => h e.symm
    have rest := find?_erase t k key
    simp only [find?, h, if_false] at rest
    simp [find?, insert, h, other, rest]

/-- Whether two tables have the same keys, and the same values under them by a given test. -/
def same (test : β → β → Bool) (a b : Table κ β) : Bool :=
  a.size == b.size &&
    a.entries.all fun entry => match b.find? entry.1 with
      | some value => test entry.2 value
      | none => false

end Table
end Placeholder
