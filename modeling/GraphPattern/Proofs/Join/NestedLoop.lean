/-
# The nested loops that a join stands for

`nestedLoop` is what a join means, as a recursion over the patterns of a plan: each
candidate of a pattern under the substitution so far is matched, in the order in which
the source gives them, and the constraint decides at the end, which makes it a filter
(`nestedLoop_filter`).  No cursor, no table and no phase occur in it.
-/
import GraphPattern.Join.Machine
import GraphPattern.Proofs.Constraint.Value
import GraphPattern.Proofs.Join.Matching

namespace GraphPattern

abbrev Candidates := TripleSelector → List Triple

/-- The candidates of a pattern under a substitution: none if a value cannot stand in its
position. -/
def TriplePattern.candidates (lists : Candidates) (σ : Substitution) (p : TriplePattern) :
    List Triple :=
  match p.selector? σ with
  | none => []
  | some selector => lists selector

/-- The substitutions that join some patterns, each inside those before it. -/
def nestedLoop (lists : Candidates) (accepts : Substitution → Bool) :
    List TriplePattern → Substitution → List Substitution
  | [], σ => if accepts σ then [σ] else []
  | p :: rest, σ =>
    (p.candidates lists σ).flatMap fun t =>
      match p.match? σ t with
      | none => []
      | some σ' => nestedLoop lists accepts rest σ'

/-- What one candidate of a pattern leads to: nothing if it does not match. -/
def tryOne (lists : Candidates) (accepts : Substitution → Bool) (rest : List TriplePattern)
    (p : TriplePattern) (σ : Substitution) (t : Triple) : List Substitution :=
  match p.match? σ t with
  | none => []
  | some σ' => nestedLoop lists accepts rest σ'

/-- What the candidates of one pattern lead to. -/
def tryEach (lists : Candidates) (accepts : Substitution → Bool) (rest : List TriplePattern)
    (p : TriplePattern) (σ : Substitution) (candidates : List Triple) : List Substitution :=
  candidates.flatMap (tryOne lists accepts rest p σ)

section

variable {lists : Candidates} {accepts : Substitution → Bool} {rest : List TriplePattern}
  {p : TriplePattern} {σ σ' : Substitution} {t : Triple} {ts : List Triple}

theorem nestedLoop_cons : nestedLoop lists accepts (p :: rest) σ =
    tryEach lists accepts rest p σ (p.candidates lists σ) := rfl

theorem tryOne_matched (h : p.match? σ t = some σ') :
    tryOne lists accepts rest p σ t = nestedLoop lists accepts rest σ' := by
  simp [tryOne, h]

theorem tryOne_unmatched (h : p.match? σ t = none) :
    tryOne lists accepts rest p σ t = [] := by
  simp [tryOne, h]

theorem mem_tryOne {τ : Substitution} : τ ∈ tryOne lists accepts rest p σ t ↔
    ∃ υ, p.match? σ t = some υ ∧ τ ∈ nestedLoop lists accepts rest υ := by
  cases h : p.match? σ t with
  | none => simp [tryOne_unmatched h]
  | some υ => simp [tryOne_matched h]

theorem tryEach_matched (h : p.match? σ t = some σ') :
    tryEach lists accepts rest p σ (t :: ts) =
      nestedLoop lists accepts rest σ' ++ tryEach lists accepts rest p σ ts := by
  rw [tryEach, List.flatMap_cons, tryOne_matched h, tryEach]

theorem tryEach_unmatched (h : p.match? σ t = none) :
    tryEach lists accepts rest p σ (t :: ts) = tryEach lists accepts rest p σ ts := by
  rw [tryEach, List.flatMap_cons, tryOne_unmatched h, List.nil_append, tryEach]

end

/-- The constraint decides at the end: what it accepts is what is left of all that joins the
patterns, in the same order. -/
theorem nestedLoop_filter (lists : Candidates) (accepts : Substitution → Bool)
    (ps : List TriplePattern) (σ : Substitution) :
    nestedLoop lists accepts ps σ = (nestedLoop lists (fun _ => true) ps σ).filter accepts := by
  induction ps generalizing σ with
  | nil =>
      rw [nestedLoop, nestedLoop, if_pos rfl]
      cases h : accepts σ <;> simp [h]
  | cons p ps ih =>
      rw [nestedLoop_cons, nestedLoop_cons, tryEach, tryEach, List.filter_flatMap]
      refine congrArg (List.flatMap · _) (funext fun t => ?_)
      cases h : p.match? σ t with
      | none => simp [tryOne_unmatched h]
      | some σ' => rw [tryOne_matched h, tryOne_matched h, ih]

namespace JoinPlan

def choose (plan : JoinPlan) (indices : List Nat) : List TriplePattern :=
  indices.filterMap fun i => plan.patterns[i]?

/-- Whether the constraint of a plan holds under a substitution. -/
def accepts (plan : JoinPlan) (table : VariableTable) (σ : Substitution) : Bool :=
  match plan.constraint with
  | none => true
  | some e => e.accepts (table.assign σ)

/-- The substitutions that a plan stands for, in the order of the nested loops. -/
def answers (plan : JoinPlan) (table : VariableTable) (lists : Candidates) : List Substitution :=
  nestedLoop lists (plan.accepts table) (plan.choose plan.order) .empty

/-- The substitutions that join all patterns of a plan, in the order of the nested loops,
whether its constraint holds of them or not. -/
def bindings (plan : JoinPlan) (lists : Candidates) : List Substitution :=
  nestedLoop lists (fun _ => true) (plan.choose plan.order) .empty

theorem answers_eq_filter (plan : JoinPlan) (table : VariableTable) (lists : Candidates) :
    plan.answers table lists = (plan.bindings lists).filter (plan.accepts table) :=
  nestedLoop_filter lists (plan.accepts table) _ _

/-- A plan for a table of `n` variables: the patterns are resolved, and the order names
patterns of the plan, each at most once. -/
structure Proper (plan : JoinPlan) (n : Nat) : Prop where
  within : ∀ p ∈ plan.patterns, p.Within n
  inRange : ∀ i ∈ plan.order, i < plan.patterns.length
  distinct : plan.order.Nodup

theorem choose_cons {plan : JoinPlan} {i : Nat} {p : TriplePattern}
    (h : plan.patterns[i]? = some p) (indices : List Nat) :
    plan.choose (i :: indices) = p :: plan.choose indices :=
  List.filterMap_cons_some h

end JoinPlan

end GraphPattern
