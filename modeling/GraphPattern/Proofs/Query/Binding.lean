/-
# What assigning variables comes to

The table of an assignment is known from the query as it is written: in front are the select
variables, each once, in the order of their first occurrence, and behind them the other names
in the order in which patterns and then constraints first have them (`Assignment.numbering`).
A name becomes the slot at its place in that list, wherever it stands, and nothing else
changes.

The step of assigning fails at no term, so the table of a pass is the one that the names of
its terms come to in a row (`Pass.row`); that is a fact about lists of names, and the guards
of the table are never met.
-/
import GraphPattern.Proofs.Query.Assignment
import GraphPattern.Proofs.Query.Traversal
import Mathlib.Data.List.Basic

namespace GraphPattern.Assignment

open VariableTable

/-! ## The table of a pass -/

theorem assignTerm_passes (T : VariableTable) (t : PatternTerm) :
    (assignTerm T t).failure = none ∧ (assignTerm T t).state = (namesOf t).foldl withName T := by
  cases t with
  | named name =>
      rw [assignTerm_eq]
      exact ⟨rfl, rfl⟩
  | _ => exact ⟨rfl, rfl⟩

theorem assignPatterns_state (T : VariableTable) (patterns : List TriplePattern) :
    (assignPatterns T patterns).state =
      ((patterns.flatMap TriplePattern.terms).flatMap namesOf).foldl withName T := by
  have step := TriplePattern.visit_of_passing assignTerm_passes
  rw [assignPatterns, Pass.list_eq_row, (Pass.row_of_passing step T patterns).2,
    List.foldl_flatMap, List.foldl_flatMap]

theorem assignConstraints_state (T : VariableTable) (constraints : List Expression) :
    (assignConstraints T constraints).state =
      ((constraints.flatMap Expression.leaves).flatMap namesOf).foldl withName T := by
  have leaf (T : VariableTable) (t : PatternTerm) :
      ((assignTerm T t).mapResult Expression.leaf).failure = none ∧
        ((assignTerm T t).mapResult Expression.leaf).state = (namesOf t).foldl withName T :=
    assignTerm_passes T t
  have step := Expression.visitLeaves_of_passing leaf
  rw [assignConstraints, Pass.list_eq_row, (Pass.row_of_passing step T constraints).2,
    List.foldl_flatMap, List.foldl_flatMap]

/-! ## Variables and their places -/

/-- What stands in patterns and in constraints, in the order in which it is read. -/
def occurrences (patterns : List TriplePattern) (constraints : List Expression) :
    List PatternTerm :=
  patterns.flatMap TriplePattern.terms ++ constraints.flatMap Expression.leaves

/-- The names of a query in the order of their places: those that are selected, and then the
others, each once and in the order of first occurrence. -/
def numbering (selects : List String) (selectAll : Bool) (patterns : List TriplePattern)
    (constraints : List Expression) : List String :=
  let front := chosen selects selectAll patterns
  columnsOf front ++
    columnsOf (((occurrences patterns constraints).flatMap namesOf).filter (· ∉ front))

/-- The slot of a name by its place in a list of names; other terms stay. -/
def slotOf (names : List String) : PatternTerm → PatternTerm
  | .named name => .slot ⟨names.idxOf name⟩
  | t => t

section Variables

variable {selects : List String} {selectAll : Bool} {patterns : List TriplePattern}
  {constraints : List Expression} {names : List String}

/-- The places are those that the names take in turn, the selected ones first. -/
theorem numbering_eq (selects : List String) (selectAll : Bool) (patterns : List TriplePattern)
    (constraints : List Expression) :
    numbering selects selectAll patterns constraints =
      ((occurrences patterns constraints).flatMap namesOf).foldl insertNew
        (columnsOf (chosen selects selectAll patterns)) := by
  have same : ∀ name, name ∈ columnsOf (chosen selects selectAll patterns) ↔
      name ∈ chosen selects selectAll patterns := by
    intro name
    simp [columnsOf, mem_foldl_insertNew]
  have split := foldl_insertNew_append ((occurrences patterns constraints).flatMap namesOf)
    (columnsOf (chosen selects selectAll patterns)) []
  simp only [List.append_nil, same] at split
  exact split.symm

theorem nodup_numbering (selects : List String) (selectAll : Bool) (patterns : List TriplePattern)
    (constraints : List Expression) :
    (numbering selects selectAll patterns constraints).Nodup := by
  rw [numbering_eq]
  exact nodup_foldl_insertNew (nodup_foldl_insertNew .nil _) _

theorem mem_numbering {name : String} (mem : .named name ∈ occurrences patterns constraints) :
    name ∈ numbering selects selectAll patterns constraints := by
  rw [numbering_eq, mem_foldl_insertNew]
  exact .inr (List.mem_flatMap.mpr ⟨_, mem, List.mem_singleton_self name⟩)

theorem slotted_eq_slotOf {T : VariableTable} {k : Nat} (h : T.Numbers k names) {t : PatternTerm}
    (known : ∀ name, t = .named name → name ∈ names) : T.slotted t = slotOf names t := by
  cases t with
  | named name =>
      have found : T.find? name = some ⟨names.idxOf name⟩ := by
        rw [h.find?, if_pos (known name rfl)]
      exact slotted_named found
  | _ => rfl

theorem slotOf_eq_iff {t u : PatternTerm} (known : ∀ name, t = .named name → name ∈ names)
    (free : ∀ id, t ≠ .slot id) (free' : ∀ id, u ≠ .slot id) :
    slotOf names t = slotOf names u ↔ t = u := by
  refine ⟨?_, congrArg (slotOf names)⟩
  intro same
  cases t with
  | named name =>
      cases u with
      | named other =>
          have place : names.idxOf name = names.idxOf other := by
            simpa [slotOf] using same
          rw [(List.idxOf_inj (known name rfl)).mp place]
      | slot id => exact absurd rfl (free' id)
      | _ => cases same
  | slot id => exact absurd rfl (free id)
  | _ =>
      cases u with
      | slot id => exact absurd rfl (free' id)
      | named other => cases same
      | _ => exact same

end Variables

/-! ## Assignments -/

/-- What an assignment makes of a query: the table has the variables in their order, and every
name has become its slot, where the variable of that name is. -/
structure Binds (selects : List String) (selectAll : Bool) (patterns : List TriplePattern)
    (constraints : List Expression) (a : Assignment) : Prop where
  table : a.table.Numbers (columnsOf (chosen selects selectAll patterns)).length
    (numbering selects selectAll patterns constraints)
  distinct : (numbering selects selectAll patterns constraints).Nodup
  patterns_eq : a.patterns =
    patterns.map fun p => p.map (slotOf (numbering selects selectAll patterns constraints))
  constraints_eq : a.constraints =
    constraints.map fun e => e.map (slotOf (numbering selects selectAll patterns constraints))
  own : ∀ name, .named name ∈ occurrences patterns constraints → ∃ id v,
    slotOf (numbering selects selectAll patterns constraints) (.named name) = .slot id ∧
      a.table.get? id = some v ∧ v.name = name
  shared : ∀ t ∈ occurrences patterns constraints, ∀ u ∈ occurrences patterns constraints,
    (∀ id, t ≠ .slot id) → (∀ id, u ≠ .slot id) →
      (slotOf (numbering selects selectAll patterns constraints) t =
        slotOf (numbering selects selectAll patterns constraints) u ↔ t = u)
  duplicates_eq : a.duplicates = if selectAll then [] else repeats selects

section Assignments

variable {selects : List String} {selectAll : Bool} {patterns : List TriplePattern}
  {constraints : List Expression} {a : Assignment}

theorem assign_numbers (ok : assign selects selectAll patterns constraints = .ok a) :
    a.table.Numbers (columnsOf (chosen selects selectAll patterns)).length
      (numbering selects selectAll patterns constraints) := by
  obtain ⟨s, selected, -, -, tableEq, -⟩ := assign_ok ok
  have start : (Selection.mk .empty []).table.Numbers ([] : List String).length [] := .empty
  have front : s.table.Numbers (columnsOf (chosen selects selectAll patterns)).length
      (columnsOf (chosen selects selectAll patterns)) :=
    start.select _ selected
  have all := front.withNames ((occurrences patterns constraints).flatMap namesOf)
  rw [← numbering_eq] at all
  rw [tableEq, assignPatterns_state, assignConstraints_state, ← List.foldl_append,
    ← List.flatMap_append]
  exact all

theorem binds_of_ok (ok : assign selects selectAll patterns constraints = .ok a)
    (assigns : Assigns selects selectAll patterns constraints a) :
    Binds selects selectAll patterns constraints a := by
  have table := assign_numbers ok
  have known : ∀ t ∈ occurrences patterns constraints, ∀ name, t = .named name →
      name ∈ numbering selects selectAll patterns constraints := by
    rintro t mem name rfl
    exact mem_numbering mem
  refine ⟨table, nodup_numbering .., ?_, ?_, ?_, ?_, assign_duplicates ok⟩
  · rw [assigns.patterns_eq]
    refine List.map_congr_left ?_
    intro p mem
    refine TriplePattern.map_congr ?_
    intro t inside
    have occurs : t ∈ occurrences patterns constraints :=
      List.mem_append_left _ (List.mem_flatMap.mpr ⟨p, mem, inside⟩)
    exact slotted_eq_slotOf table (known t occurs)
  · rw [assigns.constraints_eq]
    refine List.map_congr_left ?_
    intro e mem
    refine Expression.map_congr ?_
    intro t inside
    have occurs : t ∈ occurrences patterns constraints :=
      List.mem_append_right _ (List.mem_flatMap.mpr ⟨e, mem, inside⟩)
    exact slotted_eq_slotOf table (known t occurs)
  · intro name mem
    exact ⟨_, _, rfl, table.get?_idxOf (mem_numbering mem), rfl⟩
  · intro t mem u _ free free'
    exact slotOf_eq_iff (known t mem) free free'

/-- **An assignment fails exactly if there is nothing to select**, and then it changes
nothing; otherwise it numbers the variables in their order and puts slots for all names. -/
theorem assign_binds (selects : List String) (selectAll : Bool) (patterns : List TriplePattern)
    (constraints : List Expression) :
    (Vacant selects selectAll patterns ∧
      assign selects selectAll patterns constraints =
        .error ⟨.noVariables, patterns, constraints⟩) ∨
    (¬ Vacant selects selectAll patterns ∧
      ∃ a, assign selects selectAll patterns constraints = .ok a ∧
        Binds selects selectAll patterns constraints a) := by
  by_cases vacant : Vacant selects selectAll patterns
  · exact .inl ⟨vacant, assign_vacant vacant constraints⟩
  · obtain ⟨a, ok, assigns⟩ := assign_spec vacant constraints
    exact .inr ⟨vacant, a, ok, binds_of_ok ok assigns⟩

end Assignments

example :
    numbering ["c", "a", "c"] false
      [⟨.named "a", .reference "p", .named "b"⟩, ⟨.named "b", .reference "q", .named "c"⟩]
      [.unary .not (.leaf (.named "d")), .leaf (.named "b")] = ["c", "a", "b", "d"] := by
  decide

end GraphPattern.Assignment
