/-
# The rows of a join stand under its columns

A row is made of the select variables and the values that they have when the search is at the
end of the plan (`JoinState.step_row`).  Steps give values and take them away, and never
change which variables there are (`Declares.columns`); so all rows of a run have the same
names, those of the columns, in the same order.
-/
import GraphPattern.Proofs.Join.Disturbance
import GraphPattern.Proofs.OrderedMap

namespace GraphPattern

theorem Solution.names_ofTable {t : VariableTable} (distinct : (t.selected.map (·.name)).Nodup) :
    (ofTable t).names = t.selected.map (·.name) := by
  have pushed (s : Solution) : (t.selected.foldl (fun s v => s.push v.name v.value) s).names =
      (t.selected.map (·.name)).foldl insertNew s.names := by
    induction t.selected generalizing s with
    | nil => rfl
    | cons v vs ih =>
        rw [List.foldl_cons, ih, names, push, OrderedMap.keys_insert]
        rfl
  rw [ofTable, pushed]
  exact foldl_insertNew_of_nodup distinct

namespace JoinState

variable {ω : Type} {plan : JoinPlan} {table : VariableTable} {b : Backend ω}
  {s t : JoinState ω} {row : Solution}

theorem step_row (h : step plan b s = (.solution row, t)) : row = .ofTable s.table := by
  have judged : ∀ s : JoinState ω, (s.judge plan).2.table = s.table := by
    intro s
    obtain ⟨holds, cache, same⟩ := judge_cases plan s
    rw [same]
  unfold step at h
  split at h
  · cases h
  · dsimp only at h
    split at h
    · cases h
    · split at h
      · exact absurd h (resumeLevel_ne_solution _ _ _ _ _ _ _)
      · exact absurd h (enterLevel_ne_solution _ _ _ _ _ _ _)
      · unfold complete at h
        dsimp only at h
        split at h
        · cases h
          rw [judged]
        · unfold retreat at h
          split at h <;> cases h
      · cases h

theorem Orderly.row_names (distinct : (table.selected.map (·.name)).Nodup)
    (h : Orderly plan table s) (stepped : step plan b s = (.solution row, t)) :
    row.names = table.selected.map (·.name) := by
  have columns : s.table.selected.map (·.name) = table.selected.map (·.name) :=
    h.toDeclares.columns
  rw [step_row stepped, Solution.names_ofTable (columns ▸ distinct), columns]

theorem Orderly.drain_names (ordered : plan.order.Nodup)
    (distinct : (table.selected.map (·.name)).Nodup) (h : Orderly plan table s) :
    ∀ row ∈ (drain plan b s).rows, row.names = table.selected.map (·.name) := by
  induction s using drain.induct plan b with
  | case1 s row u pulled below ih =>
      have rest := ih ((head_of_row pulled).orderly ordered h)
      obtain ⟨t, head, delivers⟩ := next_cases plan b s
      rw [pulled] at delivers
      cases delivers with
      | row stepped =>
          have first := (head.orderly ordered h).row_names distinct stepped
          rw [(drain_of_row pulled).1]
          exact List.forall_mem_cons.mpr ⟨first, rest⟩
  | case2 s e u pulled =>
      rw [drain_of_error pulled]
      exact List.forall_mem_nil _
  | case3 s u pulled =>
      rw [drain_of_none pulled]
      exact List.forall_mem_nil _

end JoinState

open JoinState

/-- **Every row of a table that a join makes stands under its columns**, wherever in the run
the table is made and whatever the source does. -/
theorem ResultTable.ofJoin_names {ω : Type} {plan : JoinPlan} {table : VariableTable}
    {b : Backend ω} {r : ResultTable} {t : JoinState ω} (ordered : plan.order.Nodup)
    (distinct : (table.selected.map (·.name)).Nodup) (w : ω) (i : Nat)
    (made : ofJoin plan b (pulls plan b i (start plan table w)) = (.ok r, t)) :
    r.columns = table.selected.map (·.name) ∧ ∀ s ∈ r.rows, s.names = r.columns := by
  have started := start_orderly plan table w
  have columns := (started.pulls (b := b) ordered i).columns
  have names : ∀ s ∈ (drain plan b (pulls plan b i (start plan table w))).rows,
      s.names = table.selected.map (·.name) := by
    rcases head_or_over plan b (start plan table w) i with head | ended
    · exact (head.orderly ordered started).drain_names ordered distinct
    · rw [drain_of_none ended.next]
      exact List.forall_mem_nil _
  unfold ofJoin at made
  dsimp only at made
  split at made
  · cases made
  · cases made
    exact ⟨columns, fun s mem => (names s mem).trans columns.symm⟩

end GraphPattern
