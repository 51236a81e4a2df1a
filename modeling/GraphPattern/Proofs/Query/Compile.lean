/-
# What preparing a query comes to

A query that was only *built*, created for the built-in language and filled in, is
prepared unless it has failed, some name in it has no IRI, or there is nothing to select;
the error is then its `Fault`, that of the first name without an IRI if there is one.
`Planned` says what a successful preparation has made of it: slots for the names, a plan
of all patterns, and the constraints in one.  An execution then starts a join over these.
-/
import GraphPattern.Proofs.Query.Assignment
import GraphPattern.Query.Planner
import GraphPattern.Proofs.Query.Resolution
import GraphPattern.Query.Lifecycle

namespace GraphPattern

namespace QueryState

/-! ## Reports -/

theorem report_eq (s : QueryState) (severity : Severity) (message : String) :
    ∃ delivered, s.report severity message =
      { s with
        failed := s.failed || severity.invalidates
        delivered := delivered
        diagnostics := s.diagnostics ++ [⟨severity, message, s.locator⟩] } := by
  unfold report deliver
  dsimp only
  split <;> exact ⟨_, rfl⟩

theorem report_warnings_eq (message : String → String) (names : List String) (s : QueryState) :
    ∃ delivered diagnostics,
      names.foldl (fun s name => s.report .warning (message name)) s =
        { s with delivered := delivered, diagnostics := diagnostics } := by
  induction names generalizing s with
  | nil => exact ⟨s.delivered, s.diagnostics, rfl⟩
  | cons name names ih =>
      obtain ⟨delivered, first⟩ := s.report_eq .warning (message name)
      obtain ⟨delivered', diagnostics', rest⟩ := ih (s.report .warning (message name))
      refine ⟨delivered', diagnostics', ?_⟩
      rw [List.foldl_cons, rest, first]
      simp [Severity.invalidates]

/-- Two states of a query agree in what compiling and preparing have made of it. -/
structure SameStage (s s' : QueryState) : Prop where
  prepared : s'.prepared = s.prepared
  compiled : s'.compiled = s.compiled
  table : s'.table = s.table
  order : s'.order = s.order
  constraint : s'.constraint = s.constraint

theorem report_sameStage (s : QueryState) (severity : Severity) (message : String) :
    s.SameStage (s.report severity message) := by
  obtain ⟨_, reported⟩ := s.report_eq severity message
  rw [reported]
  exact ⟨rfl, rfl, rfl, rfl, rfl⟩

theorem edit_sameStage (s : QueryState) (e : QueryEdit) : s.SameStage (s.edit e) := by
  cases e with
  | report severity message => exact s.report_sameStage severity message
  | reportError e => exact s.report_sameStage e.severity e.message
  | _ => exact ⟨rfl, rfl, rfl, rfl, rfl⟩

/-! ## Compiling -/

/-- There is nothing to select. -/
def Vacant (s : QueryState) : Prop := Assignment.Vacant s.selects s.selectAll s.patterns

/-- What assigning slots has made of a query: patterns and constraints with slots, a plan of
all patterns, and the constraints in one. -/
structure Planned (s : QueryState) (a : Assignment) (s' : QueryState) : Prop where
  assigned : Assignment.assign s.selects s.selectAll s.patterns s.constraints = .ok a
  assigns : Assignment.Assigns s.selects s.selectAll s.patterns s.constraints a
  patterns : s'.patterns = a.patterns
  table : s'.table = a.table
  order : s'.order = s.config.ordering.plan a.patterns
  constraint : s'.constraint = conjunction a.constraints
  failed : s'.failed = s.failed
  aborted : s'.aborted = s.aborted

theorem assignSlots_vacant {s : QueryState} (h : s.Vacant) :
    s.assignSlots.1 = some .noVariables := by
  have stopped := Assignment.assign_vacant h s.constraints
  unfold assignSlots
  rw [stopped]

theorem assignSlots_planned {s : QueryState} (h : ¬ s.Vacant) :
    s.assignSlots.1 = none ∧ ∃ a, Planned s a s.assignSlots.2 := by
  obtain ⟨a, ok, assigns⟩ := Assignment.assign_spec h s.constraints
  unfold assignSlots
  rw [ok]
  refine ⟨rfl, a, ?_⟩
  dsimp only
  obtain ⟨delivered, diagnostics, warned⟩ := report_warnings_eq duplicateMessage a.duplicates
    { s with patterns := a.patterns, constraints := a.constraints, table := a.table }
  rw [warned]
  exact ⟨ok, assigns, rfl, rfl, rfl, rfl, rfl, rfl⟩

/-- A query can be compiled: every name has an IRI and there is something to select. -/
structure Compilable (s : QueryState) : Prop where
  resolves : ∀ t ∈ s.occurrences, s.resolver.Resolves t
  occupied : ¬ s.Vacant

theorem vacant_map (f : PatternTerm → PatternTerm) (s : QueryState) :
    (s.map f).Vacant ↔ s.Vacant := by
  simp [Vacant, Assignment.Vacant, map]

theorem compileStages_eq (s : QueryState) :
    (s.compileStages.1 = none ↔ s.Compilable) ∧
      (s.compileStages.1 = none →
        ∃ a, Planned (s.map s.resolver.rename) a s.compileStages.2) := by
  obtain ⟨stops, renames⟩ := s.resolveNames_eq
  unfold compileStages
  generalize s.resolveNames = resolved at stops renames
  obtain ⟨e, s'⟩ := resolved
  cases e with
  | some e =>
      refine ⟨⟨(fun h => nomatch h), fun able => ?_⟩, fun h => nomatch h⟩
      exact nomatch stops.mpr able.resolves
  | none =>
      have resolves := stops.mp rfl
      obtain rfl : s' = _ := renames rfl
      by_cases vacant : s.Vacant
      · have failed := assignSlots_vacant ((s.vacant_map s.resolver.rename).mpr vacant)
        refine ⟨⟨fun ok => ?_, fun able => absurd vacant able.occupied⟩, fun ok => ?_⟩
        · exact nomatch failed.symm.trans ok
        · exact nomatch failed.symm.trans ok
      · have planned := assignSlots_planned (mt (s.vacant_map s.resolver.rename).mp vacant)
        exact ⟨⟨fun _ => ⟨resolves, vacant⟩, fun _ => planned.1⟩, fun _ => planned.2⟩

theorem compile_eq {s : QueryState} (fresh : s.compiled = false) :
    (s.compile.1 = none ↔ s.failed = false ∧ s.Compilable) ∧
      (s.compile.1 = none → ∃ a, Planned (s.map s.resolver.rename) a s.compile.2) := by
  obtain ⟨stops, planned⟩ := s.compileStages_eq
  unfold compile
  cases failed : s.failed with
  | true => exact ⟨⟨(fun h => nomatch h), fun h => nomatch h.1⟩, fun h => nomatch h⟩
  | false =>
      simp only [Bool.false_eq_true, if_false, fresh]
      generalize s.compileStages = stages at stops planned
      obtain ⟨e, s'⟩ := stages
      cases e with
      | some e =>
          refine ⟨⟨(fun h => nomatch h), fun h => ?_⟩, fun h => nomatch h⟩
          exact nomatch stops.mpr h.2
      | none =>
          refine ⟨⟨fun _ => ⟨trivial, stops.mp rfl⟩, fun _ => rfl⟩, fun _ => ?_⟩
          obtain ⟨a, h⟩ := planned rfl
          exact ⟨a, h.assigned, h.assigns, h.patterns, h.table, h.order, h.constraint, h.failed,
            h.aborted⟩

/-! ## The error of compiling -/

section Faults

variable {s : QueryState} {e : QueryError}

/-- Why a query cannot be compiled: a name has no IRI, while those before it have, or all
names have and there is nothing to select. -/
inductive Fault (s : QueryState) : QueryError → Prop where
  | name {front rest : List PatternTerm} {t : PatternTerm} {e : QueryError}
      (occurs : s.occurrences = front ++ t :: rest)
      (before : ∀ u ∈ front, s.resolver.Resolves u)
      (error : s.resolver.nameIri? t = some (.error e)) : Fault s e
  | vacant (resolves : ∀ t ∈ s.occurrences, s.resolver.Resolves t) (vacant : s.Vacant) :
      Fault s .noVariables

/-- The error is `noVariables` exactly if all names have an IRI. -/
theorem Fault.noVariables_iff (h : s.Fault e) :
    e = .noVariables ↔ ∀ t ∈ s.occurrences, s.resolver.Resolves t := by
  cases h with
  | name occurs before error =>
      constructor
      · rintro rfl
        cases Resolver.nameIri?_error error
      · intro all
        exact absurd error (all _ (by simp [occurs]) _)
  | vacant resolves vacant => exact ⟨fun _ => resolves, fun _ => rfl⟩

theorem Fault.severity (h : s.Fault e) : e.severity = .error := by
  cases h with
  | name _ _ error => exact (Resolver.nameIri?_error error).severity
  | vacant _ _ => rfl

theorem resolveNames_fault : s.resolveNames.1 = some e ↔
    ∃ front t rest, s.occurrences = front ++ t :: rest ∧
      (∀ u ∈ front, s.resolver.Resolves u) ∧ s.resolver.nameIri? t = some (.error e) := by
  rw [resolveNames_first, List.findSome?_eq_some_iff]
  simp only [Resolver.failure?_eq_some, Resolver.failure?_eq_none]
  constructor
  · rintro ⟨front, t, rest, occurs, error, before⟩
    exact ⟨front, t, rest, occurs, before, error⟩
  · rintro ⟨front, t, rest, occurs, before, error⟩
    exact ⟨front, t, rest, occurs, error, before⟩

theorem assignSlots_fault : s.assignSlots.1 = some e ↔ s.Vacant ∧ e = .noVariables := by
  by_cases vacant : s.Vacant
  · simp [assignSlots_vacant vacant, vacant, eq_comm]
  · simp [(assignSlots_planned vacant).1, vacant]

theorem compileStages_first (s : QueryState) :
    s.compileStages.1 = s.resolveNames.1.or (s.map s.resolver.rename).assignSlots.1 := by
  have renamed := s.resolveNames_eq.2
  unfold compileStages
  generalize s.resolveNames = resolved at renamed
  obtain ⟨e, s'⟩ := resolved
  cases e with
  | some e => rfl
  | none =>
      obtain rfl : s' = _ := renamed rfl
      rfl

/-- **The stages fail by the fault of the query.** -/
theorem compileStages_fault : s.compileStages.1 = some e ↔ s.Fault e := by
  rw [compileStages_first, Option.or_eq_some_iff, resolveNames_fault, s.resolveNames_eq.1,
    assignSlots_fault, vacant_map]
  constructor
  · rintro (⟨front, t, rest, occurs, before, error⟩ | ⟨resolves, vacant, rfl⟩)
    · exact .name occurs before error
    · exact .vacant resolves vacant
  · rintro (⟨occurs, before, error⟩ | ⟨resolves, vacant⟩)
    · exact .inl ⟨_, _, _, occurs, before, error⟩
    · exact .inr ⟨resolves, vacant, rfl⟩

/-- A query cannot be compiled if a name has no IRI, or if all have and there is nothing to
select. -/
theorem not_compilable : ¬ s.Compilable ↔ (∃ t ∈ s.occurrences, ¬ s.resolver.Resolves t) ∨
    (∀ t ∈ s.occurrences, s.resolver.Resolves t) ∧ s.Vacant := by
  constructor
  · intro unable
    by_cases all : ∀ t ∈ s.occurrences, s.resolver.Resolves t
    · exact .inr ⟨all, Classical.byContradiction fun occupied => unable ⟨all, occupied⟩⟩
    · exact .inl (by simpa using all)
  · rintro (⟨t, mem, stuck⟩ | ⟨-, vacant⟩) able
    · exact stuck (able.resolves t mem)
    · exact able.occupied vacant

/-- What compiling does: a failed query is refused and a compiled one is left alone, a fault
is reported, and without one the query is compiled. -/
theorem compile_cases (s : QueryState) :
    s.failed = true ∧ s.compile = (some .notReady, s) ∨
      s.failed = false ∧ s.compiled = true ∧ s.compile = (none, s) ∨
      s.failed = false ∧ s.compiled = false ∧
        ((∃ e, s.Fault e ∧ s.compile = (some e, s.compileStages.2.reportError e)) ∨
          s.compile = (none, { s.compileStages.2 with compiled := true })) := by
  unfold compile
  cases failed : s.failed with
  | true => exact .inl ⟨rfl, rfl⟩
  | false =>
      cases compiled : s.compiled with
      | true => exact .inr (.inl ⟨rfl, rfl, rfl⟩)
      | false =>
          refine .inr (.inr ⟨rfl, rfl, ?_⟩)
          cases stopped : s.compileStages.1 with
          | some e =>
              refine .inl ⟨e, compileStages_fault.mp stopped, ?_⟩
              generalize s.compileStages = stages at stopped
              obtain ⟨_, s'⟩ := stages
              obtain rfl : _ = some e := stopped
              rfl
          | none =>
              refine .inr ?_
              generalize s.compileStages = stages at stopped
              obtain ⟨_, s'⟩ := stages
              obtain rfl : _ = none := stopped
              rfl

end Faults

end QueryState

namespace Query

theorem take_of_triples {q : Query} (engine : q.engine = .triples) (a : QueryStep) :
    q.take a = ((q.state.take QueryState.compile a).1,
      { q with state := (q.state.take QueryState.compile a).2 }) := by
  obtain ⟨e, s⟩ := q
  obtain rfl : e = .triples := engine
  rfl

/-! ## Queries that were built -/

/-- A query of the built-in language that was created and filled in. -/
inductive Built : Query → Prop where
  | created {config : Config} {text : Option String} {q : Query}
      (h : Query.create .triples config text = .ok q) : Built q
  | edited {q : Query} (h : Built q) (e : QueryEdit) : Built (q.take (.edit e)).2

/-- A query of the built-in language that was neither compiled nor prepared. -/
structure Fresh (q : Query) : Prop where
  engine : q.engine = .triples
  prepared : q.state.prepared = false
  compiled : q.state.compiled = false

theorem Fresh.edited {q : Query} (h : q.Fresh) (e : QueryEdit) :
    (q.take (.edit e)).2.Fresh := by
  have same := q.state.edit_sameStage e
  exact ⟨h.engine, same.prepared.trans h.prepared, same.compiled.trans h.compiled⟩

theorem Built.fresh {q : Query} (h : q.Built) : q.Fresh := by
  induction h with
  | created h =>
      cases h
      exact ⟨rfl, rfl, rfl⟩
  | edited _ e ih => exact ih.edited e

/-- Slots are made by compiling: no front-end has put one into the query. -/
def SlotFree (q : Query) : Prop := ∀ t ∈ q.state.occurrences, ∀ id, t ≠ .slot id

/-- **A built query is prepared exactly if it can be compiled**, and what that makes of it. -/
theorem Fresh.prepare_eq {q : Query} (h : q.Fresh) :
    ((q.take .prepare).1 = none ↔ q.state.failed = false ∧ q.state.Compilable) ∧
      ((q.take .prepare).1 = none → (q.take .prepare).2.engine = .triples ∧
        (q.take .prepare).2.state.prepared = true ∧
        ∃ a, (q.state.map q.state.resolver.rename).Planned a (q.take .prepare).2.state) := by
  obtain ⟨engine, state⟩ := q
  obtain ⟨rfl, prepared, compiled⟩ := h
  obtain ⟨stops, planned⟩ := QueryState.compile_eq (s := state) compiled
  have same : (Query.mk .triples state).take .prepare =
      ((state.prepareWith QueryState.compile).1,
        ⟨.triples, (state.prepareWith QueryState.compile).2⟩) := rfl
  rw [same]
  unfold QueryState.prepareWith
  cases failed : state.failed with
  | true => exact ⟨⟨(fun h => nomatch h), fun h => nomatch h.1⟩, fun h => nomatch h⟩
  | false =>
      have prepared : state.prepared = false := prepared
      simp only [Bool.false_eq_true, if_false, prepared]
      generalize state.compile = compiled at stops planned
      obtain ⟨e, s'⟩ := compiled
      cases e with
      | some e =>
          refine ⟨⟨(fun h => nomatch h), fun h => ?_⟩, fun h => nomatch h⟩
          exact nomatch stops.mpr ⟨failed, h.2⟩
      | none =>
          obtain ⟨-, able⟩ := stops.mp rfl
          obtain ⟨a, h⟩ := planned rfl
          refine ⟨⟨fun _ => ⟨trivial, able⟩, fun _ => rfl⟩, fun _ => ?_⟩
          exact ⟨trivial, rfl, a, h.assigned, h.assigns, h.patterns, h.table, h.order,
            h.constraint, h.failed, h.aborted⟩

theorem execute_eq {q : Query} (engine : q.engine = .triples) (prepared : q.state.prepared = true)
    (failed : q.state.failed = false) :
    q.execute.1 = .ok
      ⟨⟨q.state.patterns, q.state.order, q.state.constraint⟩,
        .start ⟨q.state.patterns, q.state.order, q.state.constraint⟩ q.state.table
          ⟨q.state.aborted, 0, 0⟩⟩ := by
  obtain ⟨e, state⟩ := q
  obtain rfl : e = .triples := engine
  have prepared : state.prepared = true := prepared
  have failed : state.failed = false := failed
  unfold execute
  simp only [prepared, failed, Bool.not_true, Bool.or_self, Bool.false_eq_true, if_false]
  rfl

end Query

end GraphPattern
