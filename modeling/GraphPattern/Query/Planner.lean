/-
The order in which patterns are joined.

By connectivity, patterns without variables come first; then, again and again,
the pattern that shares most variables with those placed, the earliest of
several.  The other strategy keeps the order in which the patterns were written.
-/
import GraphPattern.Query.Pattern

namespace GraphPattern

/-- How patterns are ordered. -/
inductive PlanStrategy where
  | connectivity
  | declared
deriving DecidableEq, Repr

namespace Planner

/-- A pattern that has not been placed: its number and its slots. -/
structure Candidate where
  index : Nat
  slots : List VarId
deriving DecidableEq, Repr

/-- How many slots of a pattern occur in those placed. -/
def score (bound : List VarId) (c : Candidate) : Nat :=
  (c.slots.filter (· ∈ bound)).length

/-- The first of the candidates with the highest score; `best` is the one so far. -/
def bestOf (bound : List VarId) (best : Candidate) : List Candidate → Candidate
  | [] => best
  | c :: rest => bestOf bound (if score bound best < score bound c then c else best) rest

theorem bestOf_mem (bound : List VarId) (best : Candidate) (rest : List Candidate) :
    bestOf bound best rest ∈ best :: rest := by
  induction rest generalizing best with
  | nil => simp [bestOf]
  | cons c rest ih =>
    rw [bestOf]
    split
    · exact List.mem_cons_of_mem _ (ih c)
    · rcases List.mem_cons.1 (ih best) with h | h
      · rw [h]; exact List.mem_cons_self
      · exact List.mem_cons_of_mem _ (List.mem_cons_of_mem _ h)

/-- Places the candidates that are left, the best connected one first. -/
def greedy (bound : List VarId) (candidates : List Candidate) : List Nat :=
  match candidates with
  | [] => []
  | c :: rest =>
    let best := bestOf bound c rest
    best.index :: greedy (bound ++ best.slots) ((c :: rest).erase best)
termination_by candidates.length
decreasing_by
  rw [List.length_erase_of_mem (bestOf_mem bound c rest)]
  exact Nat.sub_lt (Nat.zero_lt_succ _) Nat.one_pos

def numbered (patterns : List TriplePattern) : List Candidate :=
  patterns.zipIdx.map fun entry => ⟨entry.2, entry.1.slots⟩

/-- Patterns without slots first, then the others by connectivity. -/
def byConnectivity (patterns : List TriplePattern) : List Nat :=
  let (fixed, others) := (numbered patterns).partition fun c => c.slots.isEmpty
  fixed.map (·.index) ++ greedy [] others

end Planner

/-- The numbers of the patterns in the order in which they are joined. -/
def PlanStrategy.plan (strategy : PlanStrategy) (patterns : List TriplePattern) : List Nat :=
  match strategy with
  | .declared => List.range patterns.length
  | .connectivity => Planner.byConnectivity patterns

/-! ## A plan is a permutation

Both strategies put the numbers of the patterns in some order: none is lost and none
comes twice.
-/

namespace Planner

theorem greedy_perm (bound : List VarId) (candidates : List Candidate) :
    (greedy bound candidates).Perm (candidates.map (·.index)) := by
  induction bound, candidates using greedy.induct with
  | case1 bound => rw [greedy]; exact .nil
  | case2 bound c rest best ih =>
      rw [greedy]
      have placed : (c :: rest).Perm (best :: (c :: rest).erase best) :=
        List.perm_cons_erase (bestOf_mem bound c rest)
      exact (ih.cons best.index).trans (placed.map Candidate.index).symm

theorem numbered_index (patterns : List TriplePattern) :
    (numbered patterns).map (·.index) = List.range patterns.length := by
  rw [numbered, List.map_map, List.range_eq_range']
  exact List.zipIdx_map_snd 0 patterns

theorem byConnectivity_perm (patterns : List TriplePattern) :
    (byConnectivity patterns).Perm (List.range patterns.length) := by
  have split : ((numbered patterns).filter (fun c => c.slots.isEmpty) ++
      (numbered patterns).filter (fun c => !c.slots.isEmpty)).Perm (numbered patterns) :=
    List.filter_append_perm _ _
  unfold byConnectivity
  rw [List.partition_eq_filter_filter]
  dsimp only
  rw [← numbered_index]
  refine .trans (.append_left _ (greedy_perm _ _)) ?_
  rw [← List.map_append]
  exact split.map _

end Planner

/-- **Every strategy plans each pattern once.** -/
theorem PlanStrategy.plan_perm (strategy : PlanStrategy) (patterns : List TriplePattern) :
    (strategy.plan patterns).Perm (List.range patterns.length) := by
  cases strategy with
  | declared => exact .refl _
  | connectivity => exact Planner.byConnectivity_perm patterns

end GraphPattern
