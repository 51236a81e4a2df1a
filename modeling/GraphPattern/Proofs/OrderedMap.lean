/-
# Looking a key up in a map that was changed

Each operation of `OrderedMap` is described by what `get?` answers after it, and by the
keys that it leaves.  Proofs about maps use these equations and never the list of entries.
-/
import GraphPattern.OrderedMap
import GraphPattern.Proofs.Distinct

namespace GraphPattern.OrderedMap

variable {κ α : Type} [DecidableEq κ]

/-! ## Among the entries -/

theorem lookup_write (key k : κ) (value : α) (entries : List (κ × α)) :
    lookup k (write key value entries) =
      if key = k then some value else lookup k entries := by
  induction entries with
  | nil => rfl
  | cons entry rest ih =>
      obtain ⟨k', a⟩ := entry
      by_cases h : k' = key
      · subst h
        by_cases hk : k' = k <;> simp [write, lookup, hk]
      · by_cases hk : k' = k
        · subst hk
          simp [write, lookup, h, Ne.symm h]
        · simp [write, lookup, h, hk, ih]

theorem lookup_filter (key k : κ) (entries : List (κ × α)) :
    lookup k (entries.filter fun entry => entry.1 ≠ key) =
      if key = k then none else lookup k entries := by
  induction entries with
  | nil => simp [lookup]
  | cons entry rest ih =>
      obtain ⟨k', a⟩ := entry
      by_cases h : k' = key
      · subst h
        by_cases hk : k' = k
        · simpa [hk] using ih
        · simpa [lookup, hk] using ih
      · by_cases hk : k' = k
        · subst hk
          simp [lookup, h, Ne.symm h]
        · simpa [lookup, h, hk] using ih

theorem lookup_map {β : Type} (f : α → β) (k : κ) (entries : List (κ × α)) :
    lookup k (entries.map fun entry => (entry.1, f entry.2)) = (lookup k entries).map f := by
  induction entries with
  | nil => rfl
  | cons entry rest ih =>
      obtain ⟨k', a⟩ := entry
      by_cases h : k' = k
      · simp [lookup, h]
      · simp [lookup, h, ih]

theorem isSome_lookup (k : κ) (entries : List (κ × α)) :
    (lookup k entries).isSome ↔ k ∈ entries.map (·.1) := by
  induction entries with
  | nil => simp [lookup]
  | cons entry rest ih =>
      obtain ⟨k', a⟩ := entry
      by_cases h : k' = k
      · simp [lookup, h]
      · rw [lookup, if_neg h, ih, List.map_cons, List.mem_cons]
        exact ⟨.inr, fun mem => mem.resolve_left (Ne.symm h)⟩

theorem lookup_of_mem {entries : List (κ × α)} (distinct : (entries.map (·.1)).Nodup)
    {entry : κ × α} (mem : entry ∈ entries) : lookup entry.1 entries = some entry.2 := by
  induction entries with
  | nil => cases mem
  | cons first rest ih =>
      obtain ⟨new, distinct'⟩ := List.nodup_cons.mp distinct
      rcases List.mem_cons.mp mem with rfl | mem
      · exact if_pos rfl
      · have other : first.1 ≠ entry.1 := fun same =>
          new (List.mem_map.mpr ⟨entry, mem, same.symm⟩)
        exact (if_neg other).trans (ih distinct' mem)

theorem mem_of_lookup {entries : List (κ × α)} {k : κ} {a : α}
    (found : lookup k entries = some a) : (k, a) ∈ entries := by
  induction entries with
  | nil => cases found
  | cons entry rest ih =>
      by_cases h : entry.1 = k
      · have same : entry.2 = a := Option.some.inj ((if_pos h).symm.trans found)
        have first : entry = (k, a) := Prod.ext h same
        exact first ▸ List.mem_cons_self
      · have later : lookup k rest = some a := (if_neg h).symm.trans found
        exact List.mem_cons_of_mem entry (ih later)

theorem keys_write (key : κ) (value : α) (entries : List (κ × α)) :
    (write key value entries).map (·.1) = insertNew (entries.map (·.1)) key := by
  induction entries with
  | nil => rfl
  | cons entry rest ih =>
      obtain ⟨k, a⟩ := entry
      by_cases h : k = key
      · simp [write, insertNew, h]
      · simp only [write, if_neg h, List.map_cons, ih, insertNew, List.mem_cons, Ne.symm h,
          false_or]
        split <;> rfl

/-! ## In a map -/

@[simp] theorem get?_empty (k : κ) : (empty : OrderedMap κ α).get? k = none := rfl

theorem get?_insert (m : OrderedMap κ α) (key k : κ) (value : α) :
    (m.insert key value).get? k = if key = k then some value else m.get? k :=
  lookup_write key k value m.entries

theorem get?_erase (m : OrderedMap κ α) (key k : κ) :
    (m.erase key).get? k = if key = k then none else m.get? k :=
  lookup_filter key k m.entries

@[simp] theorem get?_mapValues {β : Type} (f : α → β) (m : OrderedMap κ α) (k : κ) :
    (m.mapValues f).get? k = (m.get? k).map f :=
  lookup_map f k m.entries

/-! ## The keys -/

theorem mem_keys {m : OrderedMap κ α} {k : κ} : k ∈ m.keys ↔ (m.get? k).isSome :=
  (isSome_lookup k m.entries).symm

theorem get?_eq_some_iff {m : OrderedMap κ α} {k : κ} {a : α} :
    m.get? k = some a ↔ (k, a) ∈ m.entries :=
  ⟨mem_of_lookup, lookup_of_mem m.distinct⟩

theorem contains_iff {m : OrderedMap κ α} {k : κ} : m.contains k = true ↔ k ∈ m.keys :=
  mem_keys.symm

theorem keys_insert (m : OrderedMap κ α) (key : κ) (value : α) :
    (m.insert key value).keys = insertNew m.keys key :=
  keys_write key value m.entries

omit [DecidableEq κ] in
@[simp] theorem keys_mapValues {β : Type} (f : α → β) (m : OrderedMap κ α) :
    (m.mapValues f).keys = m.keys := by
  simp [mapValues, keys]

theorem mem_keys_insert {m : OrderedMap κ α} {key k : κ} {value : α} :
    k ∈ (m.insert key value).keys ↔ k ∈ m.keys ∨ k = key := by
  rw [keys_insert, mem_insertNew]

/-! ## Maps of given entries -/

/-- The map of some entries, if no key is there twice. -/
def ofEntries? (entries : List (κ × α)) : Option (OrderedMap κ α) :=
  if distinct : (entries.map (·.1)).Nodup then some ⟨entries, distinct⟩ else none

theorem ofEntries?_entries (m : OrderedMap κ α) : ofEntries? m.entries = some m :=
  dif_pos m.distinct

end GraphPattern.OrderedMap
