/-
# The course of a run

A run is pulled: every pull steps on to the next delivery.  `pulls` is the state after
some pulls, `delivery` is what one of them gives, and a `Head` is a state in which the
search takes a step.  `next_cases` says what a pull comes to: it goes from head to head,
and the step from the last of them gives a row, ends the run or fails.  A run that has
given something else than a row is over: finishing it once more changes nothing, and
nothing is delivered any more.
-/
import GraphPattern.Join.Run
import GraphPattern.Proofs.Join.Substitution

namespace GraphPattern

namespace JoinState

variable {ω : Type} {plan : JoinPlan} {b : Backend ω} {s t u : JoinState ω}

def pulls (plan : JoinPlan) (b : Backend ω) : Nat → JoinState ω → JoinState ω
  | 0, s => s
  | n + 1, s => pulls plan b n (next plan b s).2

def delivery (plan : JoinPlan) (b : Backend ω) (s : JoinState ω) (n : Nat) : Option Delivery :=
  (next plan b (pulls plan b n s)).1

theorem pulls_add (n m : Nat) (s : JoinState ω) :
    pulls plan b (n + m) s = pulls plan b m (pulls plan b n s) := by
  induction n generalizing s with
  | zero => rw [Nat.zero_add]; rfl
  | succ n ih => rw [Nat.add_right_comm]; exact ih (next plan b s).2

theorem pulls_succ (n : Nat) (s : JoinState ω) :
    pulls plan b (n + 1) s = (next plan b (pulls plan b n s)).2 := pulls_add n 1 s

/-- The states from which the search takes a step, in a run from `s`. -/
inductive Head (plan : JoinPlan) (b : Backend ω) (s : JoinState ω) : JoinState ω → Prop where
  | start : Head plan b s s
  | later {t u : JoinState ω} {r : StepResult} (head : Head plan b s t)
      (stepped : step plan b t = (r, u)) (goes : r = .running ∨ ∃ row, r = .solution row) :
      Head plan b s u

theorem Head.trans (h : Head plan b s t) (h' : Head plan b t u) : Head plan b s u := by
  induction h' with
  | start => exact h
  | later _ stepped goes ih => exact ih.later stepped goes

/-! ## A pull -/

/-- What the step from the last head of a pull comes to, and the pull with it. -/
inductive Pulled (plan : JoinPlan) (b : Backend ω) (t : JoinState ω) :
    Option Delivery × JoinState ω → Prop where
  | row {u : JoinState ω} {row : Solution} (stepped : step plan b t = (.solution row, u)) :
      Pulled plan b t (some (.ok row), u)
  | none {u : JoinState ω} (stepped : step plan b t = (.exhausted, u)) :
      Pulled plan b t (none, u.finish b)
  | error {u : JoinState ω} {e : QueryError} (stepped : step plan b t = (.failed e, u)) :
      Pulled plan b t (some (.error e), u.finish b)

/-- A pull goes from head to head, up to one whose step delivers. -/
theorem next_cases (plan : JoinPlan) (b : Backend ω) (s : JoinState ω) :
    ∃ t, Head plan b s t ∧ Pulled plan b t (next plan b s) := by
  induction s using next.induct plan b with
  | case1 s s' stepped below ih =>
      obtain ⟨t, head, pulled⟩ := ih
      rw [next_of_running stepped]
      exact ⟨t, .trans (.later .start stepped (.inl rfl)) head, pulled⟩
  | case2 s row u stepped =>
      rw [next_of_solution stepped]
      exact ⟨s, .start, .row stepped⟩
  | case3 s u stepped =>
      rw [next_of_exhausted stepped]
      exact ⟨s, .start, .none stepped⟩
  | case4 s e u stepped =>
      rw [next_of_failed stepped]
      exact ⟨s, .start, .error stepped⟩

theorem head_of_row {row : Solution} (h : next plan b s = (some (.ok row), u)) :
    Head plan b s u := by
  obtain ⟨t, head, pulled⟩ := next_cases plan b s
  rw [h] at pulled
  cases pulled with
  | row stepped => exact head.later stepped (.inr ⟨row, rfl⟩)

/-- Every head of a run is passed by one of its pulls, which goes on from there. -/
theorem Head.next_eq (h : Head plan b s t) :
    ∃ n, next plan b (pulls plan b n s) = next plan b t := by
  induction h with
  | start => exact ⟨0, rfl⟩
  | later _ stepped goes ih =>
      obtain ⟨n, same⟩ := ih
      rcases goes with rfl | ⟨row, rfl⟩
      · exact ⟨n, same.trans (next_of_running stepped)⟩
      · refine ⟨n + 1, ?_⟩
        rw [pulls_succ, same, next_of_solution stepped]

/-! ## The end of a run -/

/-- A run that is over: it has ended, no level is open and no variable has a value. -/
structure Over (s : JoinState ω) : Prop where
  phase : s.phase = .finished
  levels : s.levels = []
  table : s.table.reset = s.table

theorem foldl_closeLevel_levels (levels : List Level) (s : JoinState ω) :
    (levels.foldl (closeLevel b) s).levels = s.levels := by
  induction levels generalizing s with
  | nil => rfl
  | cons l levels ih => rw [List.foldl_cons, ih, closeLevel_levels]

theorem finish_levels (b : Backend ω) (s : JoinState ω) : (s.finish b).levels = [] :=
  foldl_closeLevel_levels (inPatternOrder s.levels) _

theorem finish_over (b : Backend ω) (s : JoinState ω) : (s.finish b).Over where
  phase := rfl
  levels := s.finish_levels b
  table := VariableTable.reset_reset _

theorem Over.finish (h : s.Over) (b : Backend ω) : s.finish b = s := by
  obtain ⟨phase, levels, table⟩ := h
  have none : inPatternOrder [] = [] := List.mergeSort_nil
  unfold JoinState.finish
  rw [levels, none, List.foldl_nil]
  simp only [table, ← phase, ← levels]

theorem Over.step (h : s.Over) : step plan b s = (.exhausted, s) := by
  unfold JoinState.step
  rw [if_pos h.phase]

theorem Over.next (h : s.Over) : next plan b s = (none, s) := by
  rw [next_of_exhausted h.step, h.finish]

theorem Over.pulls (h : s.Over) (n : Nat) : pulls plan b n s = s := by
  induction n with
  | zero => rfl
  | succ n ih => rw [pulls_succ, ih, h.next]

theorem next_over {d : Option Delivery} (h : next plan b s = (d, u))
    (no : ∀ row, d ≠ some (.ok row)) : u.Over := by
  obtain ⟨t, -, pulled⟩ := next_cases plan b s
  rw [h] at pulled
  cases pulled with
  | row _ => exact absurd rfl (no _)
  | none _ => exact finish_over b _
  | error _ => exact finish_over b _

theorem head_or_over (plan : JoinPlan) (b : Backend ω) (s : JoinState ω) (n : Nat) :
    Head plan b s (pulls plan b n s) ∨ (pulls plan b n s).Over := by
  induction n with
  | zero => exact .inl .start
  | succ n ih =>
      rw [pulls_succ]
      rcases ih with head | ended
      · rcases pulled : next plan b (pulls plan b n s) with ⟨_ | _ | row, u⟩
        · exact .inr (next_over pulled nofun)
        · exact .inr (next_over pulled nofun)
        · exact .inl (head.trans (head_of_row pulled))
      · rw [ended.next]
        exact .inr ended

theorem delivery_failed {n : Nat} {e : QueryError}
    (h : delivery plan b s n = some (.error e)) :
    ∃ t u, Head plan b s t ∧ step plan b t = (.failed e, u) := by
  rcases pulled : next plan b (pulls plan b n s) with ⟨d, u⟩
  obtain rfl : d = some (.error e) := (congrArg Prod.fst pulled).symm.trans h
  rcases head_or_over plan b s n with head | ended
  · obtain ⟨t, further, last⟩ := next_cases plan b (pulls plan b n s)
    rw [pulled] at last
    cases last with
    | error stepped => exact ⟨t, _, head.trans further, stepped⟩
  · rw [ended.next] at pulled
    cases pulled

/-- Behind a pull that has given no row nothing changes. -/
theorem pulls_of_ended {n m : Nat} (h : ∀ row, delivery plan b s n ≠ some (.ok row))
    (behind : n < m) :
    (pulls plan b m s).Over ∧ pulls plan b m s = pulls plan b (n + 1) s := by
  have ended : (pulls plan b (n + 1) s).Over := by
    rw [pulls_succ]
    exact next_over rfl h
  obtain ⟨k, rfl⟩ := Nat.exists_eq_add_of_le (Nat.succ_le_of_lt behind)
  have same : pulls plan b (n + 1 + k) s = pulls plan b (n + 1) s := by
    rw [pulls_add, ended.pulls]
  exact ⟨same ▸ ended, same⟩

theorem delivery_of_ended {n m : Nat} (h : ∀ row, delivery plan b s n ≠ some (.ok row))
    (behind : n < m) : delivery plan b s m = none := by
  rw [delivery, (pulls_of_ended h behind).1.next]

end JoinState

end GraphPattern
