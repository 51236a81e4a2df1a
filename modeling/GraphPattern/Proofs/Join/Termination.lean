/-
# A join comes to its end

A source answers a request with finitely many candidates, each time with others if it likes,
so every cursor is exhausted after finitely many moves.  The rank of a join falls with every
step (`step_below`), hence the steps of a run are finitely many, all pulls taken together:
`exists_bound`.  No pull takes more of them (`nextWithin_of_bound`), and a pull that gives a
row takes at least one (`steps_of_rows`).

The end is not one that is forced.  A join that names no pattern twice never closes a level
that a place behind still needs, so no round is used up (`Orderly.rounds_eq`) and none of the
runs is given up.
-/
import GraphPattern.Proofs.Join.Discipline

namespace GraphPattern

namespace JoinState

variable {ω : Type} {plan : JoinPlan} {table : VariableTable} {b : Backend ω}
  {s t u : JoinState ω}

/-- A number of steps lead from one state to another, with rows or without. -/
inductive Steps (plan : JoinPlan) (b : Backend ω) : Nat → JoinState ω → JoinState ω → Prop where
  | none {s : JoinState ω} : Steps plan b 0 s s
  | step {s t u : JoinState ω} {r : StepResult} {n : Nat} (stepped : step plan b s = (r, t))
      (goes : r = .running ∨ ∃ row, r = .solution row) (rest : Steps plan b n t u) :
      Steps plan b (n + 1) s u

theorem Steps.trans {n m : Nat} (h : Steps plan b n s t) (h' : Steps plan b m t u) :
    Steps plan b (n + m) s u := by
  induction h with
  | none => rwa [Nat.zero_add]
  | step stepped goes _ ih =>
      rw [Nat.add_right_comm]
      exact .step stepped goes (ih h')

theorem Steps.head {n : Nat} (h : Steps plan b n s t) : Head plan b s t := by
  induction h with
  | none => exact .start
  | step stepped goes _ ih => exact .trans (.later .start stepped goes) ih

theorem Head.steps (h : Head plan b s t) : ∃ n, Steps plan b n s t := by
  induction h with
  | start => exact ⟨0, .none⟩
  | later _ stepped goes ih =>
      obtain ⟨n, before⟩ := ih
      exact ⟨n + 1, before.trans (.step stepped goes .none)⟩

/-- The loop of a pull, broken off after a number of steps. -/
def nextWithin (plan : JoinPlan) (b : Backend ω) :
    Nat → JoinState ω → Option (Option Delivery × JoinState ω)
  | 0, _ => none
  | n + 1, s =>
    match step plan b s with
    | (.running, s') => nextWithin plan b n s'
    | (.solution row, s') => some (some (.ok row), s')
    | (.exhausted, s') => some (none, s'.finish b)
    | (.failed e, s') => some (some (.error e), s'.finish b)

/-! ## The steps of a run -/

/-- **The steps of a run are finitely many.** -/
theorem exists_bound (plan : JoinPlan) (b : Backend ω) (s : JoinState ω) :
    ∃ N, ∀ n t, Steps plan b n s t → n ≤ N := by
  rcases stepped : step plan b s with ⟨r, t⟩
  by_cases goes : r = .running ∨ ∃ row, r = .solution row
  · have below : Below t s := step_below stepped goes
    obtain ⟨N, bound⟩ := exists_bound plan b t
    refine ⟨N + 1, fun n u steps => ?_⟩
    cases steps with
    | none => exact Nat.zero_le _
    | step stepped' _ rest =>
        cases stepped.symm.trans stepped'
        exact Nat.succ_le_succ (bound _ _ rest)
  · refine ⟨0, fun n u steps => ?_⟩
    cases steps with
    | none => exact Nat.le_refl 0
    | step stepped' goes' _ =>
        cases stepped.symm.trans stepped'
        exact absurd goes' goes
termination_by s.rank
decreasing_by exact below

/-- A pull takes no more steps than are left in the run, and one that ends it. -/
theorem nextWithin_of_bound {N : Nat} (bound : ∀ n t, Steps plan b n s t → n ≤ N) :
    nextWithin plan b (N + 1) s = some (next plan b s) := by
  induction N generalizing s with
  | zero =>
      rcases stepped : step plan b s with ⟨_ | row | _ | e, t⟩
      · cases bound 1 t (.step stepped (.inl rfl) .none)
      · rw [next_of_solution stepped, nextWithin, stepped]
      · rw [next_of_exhausted stepped, nextWithin, stepped]
      · rw [next_of_failed stepped, nextWithin, stepped]
  | succ N ih =>
      rcases stepped : step plan b s with ⟨_ | row | _ | e, t⟩
      · have bound' : ∀ n u, Steps plan b n t u → n ≤ N := fun n u steps =>
          Nat.le_of_succ_le_succ (bound _ u (.step stepped (.inl rfl) steps))
        rw [next_of_running stepped, ← ih bound', nextWithin, stepped]
      · rw [next_of_solution stepped, nextWithin, stepped]
      · rw [next_of_exhausted stepped, nextWithin, stepped]
      · rw [next_of_failed stepped, nextWithin, stepped]

theorem steps_of_row {row : Solution} (h : next plan b s = (some (.ok row), u)) :
    ∃ n, 1 ≤ n ∧ Steps plan b n s u := by
  induction s using next.induct plan b with
  | case1 s t stepped below ih =>
      rw [next_of_running stepped] at h
      obtain ⟨n, -, steps⟩ := ih h
      exact ⟨n + 1, Nat.le_add_left 1 n, .step stepped (.inl rfl) steps⟩
  | case2 s row' t stepped =>
      rw [next_of_solution stepped] at h
      cases h
      exact ⟨1, Nat.le_refl 1, .step stepped (.inr ⟨row, rfl⟩) .none⟩
  | case3 s t stepped =>
      rw [next_of_exhausted stepped] at h
      cases h
  | case4 s e t stepped =>
      rw [next_of_failed stepped] at h
      cases h

theorem steps_of_rows {k : Nat} (rows : ∀ i < k, ∃ row, delivery plan b s i = some (.ok row)) :
    ∃ n, k ≤ n ∧ Steps plan b n s (pulls plan b k s) := by
  induction k with
  | zero => exact ⟨0, Nat.le_refl 0, .none⟩
  | succ k ih =>
      obtain ⟨n, atLeast, steps⟩ := ih fun i before => rows i (Nat.lt_succ_of_lt before)
      obtain ⟨row, given⟩ := rows k (Nat.lt_succ_self k)
      obtain ⟨m, one, steps'⟩ := steps_of_row (Prod.ext given rfl)
      rw [pulls_succ]
      exact ⟨n + m, Nat.add_le_add atLeast one, steps.trans steps'⟩

/-- After some pulls, whatever they gave, no more steps are left than in the whole run. -/
theorem bound_pulls {N : Nat} (bound : ∀ n t, Steps plan b n s t → n ≤ N) (k : Nat) :
    ∀ n t, Steps plan b n (pulls plan b k s) t → n ≤ N := by
  intro n t steps
  rcases head_or_over plan b s k with head | ended
  · obtain ⟨m, before⟩ := head.steps
    exact Nat.le_trans (Nat.le_add_left n m) (bound _ t (before.trans steps))
  · cases steps with
    | none => exact Nat.zero_le N
    | step stepped goes _ =>
        rw [ended.step] at stepped
        cases stepped
        rcases goes with goes | ⟨row, goes⟩ <;> cases goes

/-- Of one pull more than there are steps, one gives no row. -/
theorem exists_last {N : Nat} (bound : ∀ n t, Steps plan b n s t → n ≤ N) :
    ∃ k, k ≤ N ∧ ∀ row, delivery plan b s k ≠ some (.ok row) := by
  refine Classical.byContradiction fun all => ?_
  simp only [not_exists, not_and, Classical.not_forall, Classical.not_not] at all
  obtain ⟨n, atLeast, steps⟩ := steps_of_rows (k := N + 1) fun i before =>
    all i (Nat.le_of_lt_succ before)
  exact absurd (Nat.le_trans atLeast (bound _ _ steps)) (Nat.not_succ_le_self N)

/-! ## No round is used up -/

section Rounds

variable {l : Level} {i : Nat} {behind todo : List Nat}

theorem retreat_rounds (s : JoinState ω) : s.retreat.2.rounds = s.rounds := by
  unfold retreat
  split <;> rfl

theorem leave_rounds (b : Backend ω) (new : l.pattern ∉ behind) (s : JoinState ω) :
    (s.leave b l behind todo).2.rounds = s.rounds := by
  unfold leave
  dsimp only
  rw [countRound_new new]
  dsimp only
  rw [retreat_rounds, closeLevel_rounds]

theorem examine_rounds (b : Backend ω) (new : l.pattern ∉ behind) (s : JoinState ω) :
    (s.examine b l behind todo).2.rounds = s.rounds := by
  unfold examine
  dsimp only
  split
  · split <;> exact tell_rounds s _ _
  · rw [leave_rounds b new, tell_rounds]

theorem openLevel_rounds (plan : JoinPlan) (b : Backend ω) (new : i ∉ behind)
    (s : JoinState ω) : (openLevel plan b s i behind todo).2.rounds = s.rounds := by
  unfold openLevel
  split
  · rfl
  · split
    · rfl
    · split
      · exact examine_rounds b new s
      · split
        · next opened => exact (openCursor_shape opened).2.2.2.1
        · next opened => exact (examine_rounds b new _).trans (openCursor_shape opened).2.2.2.1

theorem advanceLevel_rounds (b : Backend ω) (new : l.pattern ∉ behind) (s : JoinState ω) :
    (advanceLevel b s l behind).2.rounds = s.rounds := by
  unfold advanceLevel
  split
  · next moved => exact (advanceCursor_shape moved).2.2.2.1
  · next cursor t moved =>
      have looked : (t.examine b { l with cursor := cursor } behind t.todo).2.rounds = t.rounds :=
        examine_rounds (l := { l with cursor := cursor }) b new t
      exact looked.trans (advanceCursor_shape moved).2.2.2.1

theorem enterLevel_rounds (plan : JoinPlan) (b : Backend ω) (new : i ∉ s.done) :
    (enterLevel plan b s i todo).2.rounds = s.rounds := by
  unfold enterLevel
  split
  · next l found =>
      rw [← pattern_of_level? found] at new
      exact examine_rounds b new s
  · exact openLevel_rounds plan b new s

theorem resumeLevel_rounds (plan : JoinPlan) (b : Backend ω) (new : i ∉ behind)
    (s : JoinState ω) : (resumeLevel plan b s i behind).2.rounds = s.rounds := by
  unfold resumeLevel
  split
  · next l found =>
      rw [← pattern_of_level? found] at new
      exact advanceLevel_rounds b new s
  · exact openLevel_rounds plan b new s

theorem complete_rounds (plan : JoinPlan) (s : JoinState ω) :
    (complete plan s).2.rounds = s.rounds := by
  have judged : (s.judge plan).2.rounds = s.rounds := (judge_shape plan s).2.2.2.1
  unfold complete
  dsimp only
  split
  · exact judged
  · rw [retreat_rounds]
    exact judged

theorem Orderly.step_rounds (distinct : plan.order.Nodup) (h : Orderly plan table s) :
    (step plan b s).2.rounds = s.rounds := by
  unfold step
  split
  · rfl
  · dsimp only
    split
    · rfl
    · split
      · next index behind _ back =>
          have order : behind.reverse ++ index :: s.todo = plan.order := by
            have order := h.order
            rw [show s.done = index :: behind from back, List.reverse_cons] at order
            rwa [List.append_cons]
          exact resumeLevel_rounds plan b (not_mem_behind distinct order) _
      · next index todo _ next =>
          have order : s.done.reverse ++ index :: todo = plan.order := by
            rw [← show s.todo = index :: todo from next]
            exact h.order
          exact enterLevel_rounds plan b (not_mem_behind distinct order)
      · exact complete_rounds plan _
      · rfl

theorem Orderly.rounds_eq (distinct : plan.order.Nodup) (h : Orderly plan table s)
    (head : Head plan b s t) : t.rounds = s.rounds := by
  induction head with
  | start => rfl
  | @later t u r head stepped _ ih =>
      have kept := (head.orderly distinct h).step_rounds (b := b) distinct
      rw [stepped] at kept
      exact kept.trans ih

end Rounds

/-! ## Termination -/

/-- **A join comes to its end.**  There is a number that no count of its steps exceeds, all
pulls taken together; the loop of each pull ends within it, and after as many pulls at most
there is no further row.  All the while no round is used up. -/
theorem join_terminates (distinct : plan.order.Nodup) (table : VariableTable) (b : Backend ω)
    (w : ω) :
    ∃ N, (∀ n t, Steps plan b n (start plan table w) t → n ≤ N ∧ t.rounds = roundLimit) ∧
      (∀ k, nextWithin plan b (N + 1) (pulls plan b k (start plan table w)) =
        some (next plan b (pulls plan b k (start plan table w)))) ∧
      ∃ k, k ≤ N ∧ ∀ row, delivery plan b (start plan table w) k ≠ some (.ok row) := by
  obtain ⟨N, bound⟩ := exists_bound plan b (start plan table w)
  refine ⟨N, fun n t steps => ⟨bound n t steps, ?_⟩, fun k => ?_, exists_last bound⟩
  · exact (start_orderly plan table w).rounds_eq distinct steps.head
  · exact nextWithin_of_bound (bound_pulls bound k)

/-- A source that answers every request with one candidate more, all alike. -/
def growing : Backend Nat where
  stops n := (false, n)
  candidates _ n :=
    (.ok (List.replicate n ⟨.iri .xsdString, .xsdString, .iri .xsdString⟩), n + 1)
  reads _ n := n
  advanceFault _ n := (none, n)
  closes _ _ n := n

theorem growing_terminates :
    chainPlan.order.Nodup ∧
      ∃ N, (∀ n t, Steps chainPlan growing n (start chainPlan chainTable 1) t → n ≤ N) ∧
        ∃ k, k ≤ N ∧
          ∀ row, delivery chainPlan growing (start chainPlan chainTable 1) k ≠ some (.ok row) := by
  have distinct : chainPlan.order.Nodup := by decide
  obtain ⟨N, bound, -, last⟩ := join_terminates distinct chainTable growing 1
  exact ⟨distinct, N, fun n t steps => (bound n t steps).1, last⟩

end JoinState

end GraphPattern
