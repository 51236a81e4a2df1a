/-
# An index lists the triples by their keys

`TripleIndex.Lists` says what an index is for: a key has an entry exactly if a
triple of the list has that key, and the entry is the part of the list with that
key, in the order of the list.  Adding a new triple at the end and erasing a triple
keep it.
-/
import GraphPattern.Proofs.OrderedMap
import GraphPattern.Store.Basic

namespace GraphPattern

/-- The triples of a list that have a key. -/
def withKey {κ : Type} [DecidableEq κ] (keyOf : Triple → κ) (key : κ) (triples : List Triple) :
    List Triple :=
  triples.filter fun t => keyOf t = key

namespace TripleIndex

variable {κ : Type} [DecidableEq κ] {index : TripleIndex κ} {keyOf : Triple → κ}
  {triples : List Triple}

/-- An index has an entry for the keys that occur, and each entry is the part of the
list with its key. -/
structure Lists (index : TripleIndex κ) (keyOf : Triple → κ) (triples : List Triple) : Prop where
  entry_iff : ∀ key, (index.get? key).isSome ↔ ∃ t ∈ triples, keyOf t = key
  entry_eq : ∀ key listed, index.get? key = some listed → listed = withKey keyOf key triples

theorem withKey_eq_nil {key : κ} :
    withKey keyOf key triples = [] ↔ ¬ ∃ t ∈ triples, keyOf t = key := by
  simp [withKey]

theorem Lists.get? (h : index.Lists keyOf triples) (key : κ) :
    index.get? key =
      if withKey keyOf key triples = [] then none else some (withKey keyOf key triples) := by
  have hiff := h.entry_iff key
  split
  · next hnil =>
      rw [withKey_eq_nil, ← hiff] at hnil
      exact Option.not_isSome_iff_eq_none.mp hnil
  · next hnil =>
      rw [withKey_eq_nil, Classical.not_not, ← hiff] at hnil
      obtain ⟨listed, hl⟩ := Option.isSome_iff_exists.mp hnil
      rw [hl, h.entry_eq key listed hl]

theorem Lists.of_get? (h : ∀ key, index.get? key =
      if withKey keyOf key triples = [] then none else some (withKey keyOf key triples)) :
    index.Lists keyOf triples where
  entry_iff key := by
    rw [h key]
    split
    · next hnil => simpa using withKey_eq_nil.mp hnil
    · next hnil => simpa using Classical.not_not.mp (mt withKey_eq_nil.mpr hnil)
  entry_eq key listed hl := by
    rw [h key] at hl
    split at hl
    · cases hl
    · exact (Option.some.inj hl).symm

theorem Lists.getD_get? (h : index.Lists keyOf triples) (key : κ) :
    (index.get? key).getD [] = withKey keyOf key triples := by
  rw [h.get? key]
  split
  · next hnil => exact hnil.symm
  · rfl

theorem Lists.empty : Lists (OrderedMap.empty : TripleIndex κ) keyOf [] :=
  .of_get? fun _ => rfl

/-! ## Adding a triple at the end -/

theorem withKey_append (key : κ) (t : Triple) :
    withKey keyOf key (triples ++ [t]) =
      if keyOf t = key then withKey keyOf key triples ++ [t] else withKey keyOf key triples := by
  by_cases h : keyOf t = key <;> simp [withKey, h]

theorem Lists.add (h : index.Lists keyOf triples) {t : Triple} (new : t ∉ triples) :
    (index.add (keyOf t) t).Lists keyOf (triples ++ [t]) := by
  have hnew : t ∉ withKey keyOf (keyOf t) triples :=
    fun ht => new (List.mem_filter.mp ht).1
  refine .of_get? fun key => ?_
  rw [TripleIndex.add, OrderedMap.get?_insert, h.getD_get?, appendNew, if_neg hnew,
    withKey_append]
  by_cases hk : keyOf t = key
  · subst hk
    simp
  · rw [if_neg hk, if_neg hk]
    exact h.get? key

/-! ## Erasing a triple -/

theorem withKey_erase (key : κ) (t : Triple) :
    withKey keyOf key (triples.erase t) =
      if keyOf t = key then (withKey keyOf key triples).erase t
      else withKey keyOf key triples := by
  rw [withKey, ← List.erase_filter]
  by_cases h : keyOf t = key
  · rw [if_pos h]
    rfl
  · rw [if_neg h]
    exact List.erase_of_not_mem fun ht => h (by simpa using (List.mem_filter.mp ht).2)

theorem Lists.remove (h : index.Lists keyOf triples) (t : Triple) :
    (index.remove (keyOf t) t).Lists keyOf (triples.erase t) := by
  refine .of_get? fun key => ?_
  have entry := h.get? (keyOf t)
  rw [withKey_erase]
  by_cases hk : keyOf t = key
  · subst hk
    rw [if_pos rfl, TripleIndex.remove]
    by_cases hnil : withKey keyOf (keyOf t) triples = []
    · rw [if_pos hnil] at entry
      simp [entry, hnil]
    · rw [if_neg hnil] at entry
      simp only [entry, List.isEmpty_iff]
      split
      · next gone => simp [OrderedMap.get?_erase]
      · next left => simp [OrderedMap.get?_insert]
  · rw [if_neg hk, ← h.get? key, TripleIndex.remove]
    cases index.get? (keyOf t) with
    | none => rfl
    | some listed =>
        dsimp only
        split
        · rw [OrderedMap.get?_erase, if_neg hk]
        · rw [OrderedMap.get?_insert, if_neg hk]

end TripleIndex

end GraphPattern
