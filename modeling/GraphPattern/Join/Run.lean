/-
Running a join to its rows.

`next` steps on to the next row; at the end, after an error and when it is given
up a join is finished, which closes what is open.  `drain` collects the rows that
are left.
-/
import GraphPattern.Join.Progress

namespace GraphPattern

abbrev Delivery := Except QueryError Solution

namespace JoinState

variable {ω : Type}

/-- Steps to the next row, to the end or to an error. -/
def next (plan : JoinPlan) (b : Backend ω) (s : JoinState ω) : Option Delivery × JoinState ω :=
  match h : step plan b s with
  | (.running, s') =>
    have : Below s' s := step_below h (.inl rfl)
    next plan b s'
  | (.solution row, s') => (some (.ok row), s')
  | (.exhausted, s') => (none, s'.finish b)
  | (.failed e, s') => (some (.error e), s'.finish b)
termination_by s.rank
decreasing_by exact this

theorem next_of_running {plan : JoinPlan} {b : Backend ω} {s s' : JoinState ω}
    (h : step plan b s = (.running, s')) : next plan b s = next plan b s' := by
  rw [next]
  split <;> simp_all

theorem next_of_solution {plan : JoinPlan} {b : Backend ω} {s s' : JoinState ω} {row : Solution}
    (h : step plan b s = (.solution row, s')) : next plan b s = (some (.ok row), s') := by
  rw [next]
  split <;> simp_all

theorem next_of_exhausted {plan : JoinPlan} {b : Backend ω} {s s' : JoinState ω}
    (h : step plan b s = (.exhausted, s')) : next plan b s = (none, s'.finish b) := by
  rw [next]
  split <;> simp_all

theorem next_of_failed {plan : JoinPlan} {b : Backend ω} {s s' : JoinState ω} {e : QueryError}
    (h : step plan b s = (.failed e, s')) : next plan b s = (some (.error e), s'.finish b) := by
  rw [next]
  split <;> simp_all

theorem next_below {plan : JoinPlan} {b : Backend ω} {s s' : JoinState ω} {row : Solution}
    (h : next plan b s = (some (.ok row), s')) : Below s' s := by
  induction s using next.induct plan b with
  | case1 s t hstep below ih =>
    rw [next_of_running hstep] at h
    exact (ih h).trans below
  | case2 s row' t hstep =>
    rw [next_of_solution hstep] at h
    cases h
    exact step_below hstep (.inr ⟨_, rfl⟩)
  | case3 s t hstep => rw [next_of_exhausted hstep] at h; cases h
  | case4 s e t hstep => rw [next_of_failed hstep] at h; cases h

/-- The rows that are left and the error that ends them, if there is one. -/
structure Drained (ω : Type) where
  rows : List Solution
  error : Option QueryError
  state : JoinState ω

/-- Collects the rows that are left. -/
def drain (plan : JoinPlan) (b : Backend ω) (s : JoinState ω) : Drained ω :=
  match h : next plan b s with
  | (some (.ok row), s') =>
    have : Below s' s := next_below h
    let d := drain plan b s'
    { d with rows := row :: d.rows }
  | (some (.error e), s') => ⟨[], some e, s'⟩
  | (none, s') => ⟨[], none, s'⟩
termination_by s.rank
decreasing_by exact this

def columns (s : JoinState ω) : List String := s.table.selected.map (·.name)

end JoinState

end GraphPattern
