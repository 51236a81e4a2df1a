/-
Maps that remember the order in which their keys came.

The entries are a list of pairs with distinct keys.  Writing to a key that is there keeps
its place, a new key goes to the end.
-/

namespace GraphPattern

/-- Entries in the order in which their keys came, each key once. -/
@[ext]
structure OrderedMap (κ α : Type) where
  entries : List (κ × α)
  distinct : (entries.map (·.1)).Nodup
deriving DecidableEq

namespace OrderedMap

variable {κ α : Type} [DecidableEq κ]

def empty : OrderedMap κ α := ⟨[], .nil⟩

def keys (m : OrderedMap κ α) : List κ := m.entries.map (·.1)

def values (m : OrderedMap κ α) : List α := m.entries.map (·.2)

def lookup (key : κ) : List (κ × α) → Option α
  | [] => none
  | (k, a) :: rest => if k = key then some a else lookup key rest

def get? (m : OrderedMap κ α) (key : κ) : Option α := lookup key m.entries

def contains (m : OrderedMap κ α) (key : κ) : Bool := (m.get? key).isSome

def write (key : κ) (value : α) : List (κ × α) → List (κ × α)
  | [] => [(key, value)]
  | (k, a) :: rest => if k = key then (k, value) :: rest else (k, a) :: write key value rest

theorem mem_write {key : κ} {value : α} {entries : List (κ × α)} {entry : κ × α}
    (mem : entry ∈ write key value entries) : entry = (key, value) ∨ entry ∈ entries := by
  induction entries with
  | nil => exact .inl (List.mem_singleton.mp mem)
  | cons first rest ih =>
      obtain ⟨k, a⟩ := first
      by_cases h : k = key
      · rw [write, if_pos h, h] at mem
        rcases List.mem_cons.mp mem with rfl | later
        · exact .inl rfl
        · exact .inr (List.mem_cons_of_mem _ later)
      · rw [write, if_neg h] at mem
        rcases List.mem_cons.mp mem with rfl | later
        · exact .inr List.mem_cons_self
        · exact (ih later).imp_right (List.mem_cons_of_mem _)

theorem nodup_write {entries : List (κ × α)} (distinct : (entries.map (·.1)).Nodup) (key : κ)
    (value : α) : ((write key value entries).map (·.1)).Nodup := by
  induction entries with
  | nil => exact List.nodup_cons.mpr ⟨List.not_mem_nil, .nil⟩
  | cons first rest ih =>
      obtain ⟨k, a⟩ := first
      obtain ⟨new, distinct'⟩ := List.nodup_cons.mp distinct
      by_cases h : k = key
      · rw [write, if_pos h]
        exact distinct
      · rw [write, if_neg h]
        refine List.nodup_cons.mpr ⟨fun mem => ?_, ih distinct'⟩
        obtain ⟨entry, written, same⟩ := List.mem_map.mp mem
        rcases mem_write written with rfl | there
        · exact h same.symm
        · exact new (List.mem_map.mpr ⟨entry, there, same⟩)

def insert (m : OrderedMap κ α) (key : κ) (value : α) : OrderedMap κ α :=
  ⟨write key value m.entries, nodup_write m.distinct key value⟩

def erase (m : OrderedMap κ α) (key : κ) : OrderedMap κ α :=
  ⟨m.entries.filter fun entry => entry.1 ≠ key, m.distinct.sublist (List.filter_sublist.map _)⟩

def mapValues {β : Type} (f : α → β) (m : OrderedMap κ α) : OrderedMap κ β :=
  ⟨m.entries.map fun entry => (entry.1, f entry.2), by
    rw [List.map_map]
    exact m.distinct⟩

end OrderedMap

end GraphPattern
