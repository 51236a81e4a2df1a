/-
# The elements of a list, each once

Adding the elements of a list one by one with `insertNew` keeps the first occurrence of each.
What comes out has no repetitions and the same elements, in the order of their first
occurrence, which is their order by `List.idxOf` in the list; choosing some of the elements
before or after makes no difference.
-/
import GraphPattern.Query.Pattern

namespace GraphPattern

variable {α : Type} [DecidableEq α] {seen kept xs : List α} {x y : α}

theorem mem_insertNew : y ∈ insertNew xs x ↔ y ∈ xs ∨ y = x := by
  unfold insertNew
  split
  · next known => exact ⟨.inl, fun h => h.elim id fun same => same ▸ known⟩
  · simp

theorem insertNew_of_not_mem (new : x ∉ xs) : insertNew xs x = xs ++ [x] := if_neg new

theorem prefix_insertNew (xs : List α) (x : α) : xs <+: insertNew xs x := by
  rw [insertNew]
  split
  · exact List.prefix_rfl
  · exact List.prefix_append xs [x]

theorem nodup_insertNew (h : xs.Nodup) (x : α) : (insertNew xs x).Nodup := by
  by_cases known : x ∈ xs
  · rwa [insertNew, if_pos known]
  · rw [insertNew_of_not_mem known]
    refine List.nodup_append.mpr ⟨h, by simp, ?_⟩
    intro y mem z last
    rw [List.mem_singleton.mp last]
    exact fun same => known (same ▸ mem)

theorem filter_insertNew (p : α → Bool) (xs : List α) (x : α) :
    (insertNew xs x).filter p = if p x then insertNew (xs.filter p) x else xs.filter p := by
  by_cases chosen : p x = true
  · by_cases known : x ∈ xs
    · simp [insertNew, chosen, known]
    · simp [insertNew, chosen, known, List.filter_append]
  · by_cases known : x ∈ xs
    · simp [insertNew, chosen, known]
    · simp [insertNew, chosen, known, List.filter_append]

/-! ## A whole list -/

theorem mem_foldl_insertNew : y ∈ xs.foldl insertNew kept ↔ y ∈ kept ∨ y ∈ xs := by
  induction xs generalizing kept with
  | nil => simp
  | cons x xs ih => rw [List.foldl_cons, ih, mem_insertNew, List.mem_cons, or_assoc]

theorem nodup_foldl_insertNew (h : kept.Nodup) (xs : List α) :
    (xs.foldl insertNew kept).Nodup := by
  induction xs generalizing kept with
  | nil => exact h
  | cons x xs ih => exact ih (nodup_insertNew h x)

theorem foldl_insertNew_of_nodup (h : (kept ++ xs).Nodup) :
    xs.foldl insertNew kept = kept ++ xs := by
  induction xs generalizing kept with
  | nil => simp
  | cons x xs ih =>
      have new : x ∉ kept := fun mem =>
        (List.nodup_append.mp h).2.2 x mem x List.mem_cons_self rfl
      rw [List.append_cons] at h
      rw [List.foldl_cons, insertNew_of_not_mem new, ih h, ← List.append_cons]

/-- What is in front stays there, and the rest of the list is kept as if that were not in it. -/
theorem foldl_insertNew_append (xs kept more : List α) :
    xs.foldl insertNew (kept ++ more) =
      kept ++ (xs.filter (· ∉ kept)).foldl insertNew more := by
  induction xs generalizing more with
  | nil => rfl
  | cons x xs ih =>
      by_cases known : x ∈ kept
      · have there : insertNew (kept ++ more) x = kept ++ more :=
          if_pos (List.mem_append_left more known)
        rw [List.foldl_cons, there, ih, List.filter_cons_of_neg (by simpa using known)]
      · have behind : insertNew (kept ++ more) x = kept ++ insertNew more x := by
          by_cases old : x ∈ more
          · rw [insertNew, insertNew, if_pos old, if_pos (List.mem_append_right kept old)]
          · rw [insertNew_of_not_mem old, insertNew_of_not_mem (by simp [known, old]),
              List.append_assoc]
        rw [List.foldl_cons, behind, ih, List.filter_cons_of_pos (by simpa using known),
          List.foldl_cons]

theorem filter_foldl_insertNew (p : α → Bool) (xs kept : List α) :
    (xs.foldl insertNew kept).filter p = (xs.filter p).foldl insertNew (kept.filter p) := by
  induction xs generalizing kept with
  | nil => rfl
  | cons x xs ih =>
      rw [List.foldl_cons, ih, filter_insertNew, List.filter_cons]
      split <;> rfl

theorem foldl_insertNew_map {β : Type} [DecidableEq β] {f : α → β}
    (injective : Function.Injective f) (xs kept : List α) :
    (xs.map f).foldl insertNew (kept.map f) = (xs.foldl insertNew kept).map f := by
  induction xs generalizing kept with
  | nil => rfl
  | cons x xs ih =>
      have known : f x ∈ kept.map f ↔ x ∈ kept := by
        rw [List.mem_map]
        exact ⟨fun ⟨y, mem, same⟩ => injective same ▸ mem, fun mem => ⟨x, mem, rfl⟩⟩
      have first : insertNew (kept.map f) (f x) = (insertNew kept x).map f := by
        by_cases mem : x ∈ kept
        · rw [insertNew, insertNew, if_pos mem, if_pos (known.mpr mem)]
        · rw [insertNew_of_not_mem mem, insertNew_of_not_mem (mt known.mp mem), List.map_append]
          rfl
      rw [List.map_cons, List.foldl_cons, List.foldl_cons, first, ih]

/-- What was kept of a list stands in the order of its first occurrences, and so it does when
the list goes on. -/
theorem ordered_foldl_insertNew (same : ∀ x, x ∈ kept ↔ x ∈ seen)
    (ordered : kept.Pairwise fun x y => seen.idxOf x < seen.idxOf y) (xs : List α) :
    (xs.foldl insertNew kept).Pairwise fun x y =>
      (seen ++ xs).idxOf x < (seen ++ xs).idxOf y := by
  induction xs generalizing seen kept with
  | nil => simpa using ordered
  | cons x xs ih =>
      have place : ∀ y ∈ kept, (seen ++ [x]).idxOf y = seen.idxOf y := fun y mem => by
        rw [List.idxOf_append, if_pos ((same y).mp mem)]
      have ordered' : kept.Pairwise fun y z => (seen ++ [x]).idxOf y < (seen ++ [x]).idxOf z :=
        ordered.imp_of_mem fun mem mem' lt => by rwa [place _ mem, place _ mem']
      rw [List.append_cons, List.foldl_cons]
      refine ih (fun y => ?_) ?_
      · rw [mem_insertNew, same, List.mem_append, List.mem_singleton]
      · by_cases known : x ∈ kept
        · rwa [insertNew, if_pos known]
        · rw [insertNew_of_not_mem known, List.pairwise_append]
          refine ⟨ordered', List.pairwise_singleton .., fun y mem z last => ?_⟩
          have unseen : x ∉ seen := mt (same x).mpr known
          have before : seen.idxOf y < seen.length :=
            List.idxOf_lt_length_iff.mpr ((same y).mp mem)
          rw [List.mem_singleton.mp last, place y mem, List.idxOf_append, if_neg unseen]
          exact Nat.lt_of_lt_of_le before (Nat.le_add_left ..)

theorem ordered_distinct (xs : List α) :
    (xs.foldl insertNew []).Pairwise fun x y => xs.idxOf x < xs.idxOf y := by
  have same : ∀ x : α, x ∈ ([] : List α) ↔ x ∈ [] := fun _ => .rfl
  exact ordered_foldl_insertNew same .nil xs

end GraphPattern
