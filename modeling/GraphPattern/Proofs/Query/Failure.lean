/-
# A query that cannot be compiled

Compiling has one error for a query, its `Fault`: that of the first name without an IRI, or
that there is nothing to select where every name has one.  A query of the built-in language
that it fails on gets one diagnostic more, whether `compile` or `prepare` was called, and is
failed from then on.  Whatever stages were passed before have left no variables, no order and
no constraint (`Unplanned`), and every later attempt is refused.
-/
import GraphPattern.Proofs.Query.Compiled

namespace GraphPattern

namespace QueryState

variable {s : QueryState} {e : QueryError}

/-! ## What a failure leaves -/

/-- Patterns and constraints may have changed from one state to another, nothing else has. -/
def Rewritten (s s' : QueryState) : Prop :=
  ∃ patterns constraints, s' = { s with patterns := patterns, constraints := constraints }

theorem resolveNames_rewritten (s : QueryState) : s.Rewritten s.resolveNames.2 := by
  unfold resolveNames
  dsimp only
  split <;> exact ⟨_, _, rfl⟩

theorem assignSlots_rewritten (h : s.assignSlots.1 = some e) : s.Rewritten s.assignSlots.2 := by
  obtain ⟨vacant, rfl⟩ := assignSlots_fault.mp h
  unfold assignSlots
  rw [Assignment.assign_vacant vacant]
  exact ⟨_, _, rfl⟩

/-- Stages that fail have only rewritten the query, whichever of them it was. -/
theorem compileStages_rewritten (h : s.compileStages.1 = some e) :
    s.Rewritten s.compileStages.2 := by
  obtain ⟨patterns, constraints, same⟩ := s.resolveNames_rewritten
  unfold compileStages at h ⊢
  generalize s.resolveNames = resolved at same h
  obtain ⟨e', s'⟩ := resolved
  obtain rfl : s' = _ := same
  cases e' with
  | some e' => exact ⟨_, _, rfl⟩
  | none =>
      obtain ⟨patterns', constraints', same'⟩ := assignSlots_rewritten h
      exact ⟨patterns', constraints', same'⟩

/-- A failure by an error: it is the one new diagnostic, the query is failed, and what
compiling makes of a query is as it was. -/
structure FailedBy (s : QueryState) (e : QueryError) (s' : QueryState) : Prop where
  failed : s'.failed = true
  diagnostics : s'.diagnostics = s.diagnostics ++ [⟨e.severity, e.message, s.locator⟩]
  stage : s.SameStage s'

theorem Fault.failedBy (h : s.Fault e) : s.FailedBy e (s.compileStages.2.reportError e) := by
  obtain ⟨patterns, constraints, same⟩ := compileStages_rewritten (compileStages_fault.mpr h)
  have failed := failed_of_fault h s.compileStages.2
  obtain ⟨delivered, reported⟩ := s.compileStages.2.report_eq e.severity e.message
  refine ⟨failed, ?_, ?_⟩
  · rw [reportError, reported, same]
  · rw [reportError, reported, same]
    exact ⟨rfl, rfl, rfl, rfl, rfl⟩

theorem compile_failedBy (sound : s.failed = false) (h : s.compile.1 = some e) :
    s.Fault e ∧ s.FailedBy e s.compile.2 := by
  rcases s.compile_cases with ⟨failed, -⟩ | ⟨-, -, same⟩ | ⟨-, -, ⟨e', fault, same⟩ | same⟩
  · rw [sound] at failed
    cases failed
  · rw [same] at h
    cases h
  · rw [same] at h ⊢
    cases h
    exact ⟨fault, fault.failedBy⟩
  · rw [same] at h
    cases h

theorem prepare_failedBy (sound : s.failed = false) (h : (s.prepareWith compile).1 = some e) :
    s.Fault e ∧ s.FailedBy e (s.prepareWith compile).2 := by
  rcases s.prepare_cases with ⟨failed, -⟩ | ⟨-, -, same⟩ | ⟨-, -, ⟨e', -, same⟩ | ⟨-, same⟩⟩
  · rw [sound] at failed
    cases failed
  · rw [same] at h
    cases h
  · rw [same] at h ⊢
    exact compile_failedBy sound h
  · rw [same] at h
    cases h

theorem take_failedBy {way : QueryStep} (compiles : way = .compile ∨ way = .prepare)
    (sound : s.failed = false) (h : (s.take compile way).1 = some e) :
    s.Fault e ∧ s.FailedBy e (s.take compile way).2 := by
  rcases compiles with rfl | rfl
  · exact compile_failedBy sound h
  · exact prepare_failedBy sound h

/-- Compiling has made nothing of a query. -/
structure Unplanned (s : QueryState) : Prop where
  table : s.table = .empty
  order : s.order = []
  constraint : s.constraint = none

theorem SameStage.unplanned {s' : QueryState} (same : s.SameStage s') (h : s.Unplanned) :
    s'.Unplanned :=
  ⟨same.table.trans h.table, same.order.trans h.order, same.constraint.trans h.constraint⟩

theorem take_of_failed {hook : QueryState → Option QueryError × QueryState} {way : QueryStep}
    (compiles : way = .compile ∨ way = .prepare) (failed : s.failed = true) :
    s.take hook way = (some .notReady, s) := by
  rcases compiles with rfl | rfl
  · show s.compile = _
    rw [compile, if_pos failed]
  · show s.prepareWith hook = _
    rw [prepareWith, if_pos failed]

end QueryState

namespace Query

/-! ## Before the failure -/

/-- A query of the built-in language is compiled, or it is not prepared and compiling has
made nothing of it. -/
structure Staged (q : Query) : Prop where
  engine : q.engine = .triples
  stage : q.state.compiled = true ∨ q.state.prepared = false ∧ q.state.Unplanned

theorem staged_of_create {config : Config} {text : Option String} {q : Query}
    (created : Query.create .triples config text = .ok q) : q.Staged := by
  cases created
  exact ⟨rfl, .inr ⟨rfl, rfl, rfl, rfl⟩⟩

/-- An attempt to compile a query that was not prepared succeeds, or leaves all as it was. -/
theorem take_staged {s : QueryState} (new : s.prepared = false) {way : QueryStep}
    (compiles : way = .compile ∨ way = .prepare) :
    (s.take QueryState.compile way).2.compiled = true ∨
      s.SameStage (s.take QueryState.compile way).2 := by
  cases failed : s.failed with
  | true =>
      rw [QueryState.take_of_failed compiles failed]
      exact .inr ⟨rfl, rfl, rfl, rfl, rfl⟩
  | false =>
      cases answer : (s.take QueryState.compile way).1 with
      | some e => exact .inr (QueryState.take_failedBy compiles failed answer).2.stage
      | none =>
          refine .inl ?_
          rcases compiles with rfl | rfl
          · exact QueryState.compiled_of_compile answer
          · exact QueryState.compiled_of_prepare new answer

theorem Staged.act {q : Query} (h : q.Staged) (a : Act) : (q.act a).Staged := by
  refine ⟨(q.act_engine a).trans h.engine, ?_⟩
  rcases h.stage with compiled | ⟨new, unplanned⟩
  · exact .inl (act_compiled h.engine compiled a)
  · cases a with
    | run b n =>
        rcases run_cases h.engine b n with same | ⟨prepared, -⟩
        · rw [show q.act (.run b n) = q from same]
          exact .inr ⟨new, unplanned⟩
        · rw [new] at prepared
          cases prepared
    | step way =>
        have stage : (q.take way).2.state.compiled = true ∨
            q.state.SameStage (q.take way).2.state := by
          rw [take_of_triples h.engine]
          cases way with
          | edit e => exact .inr (q.state.edit_sameStage e)
          | compile => exact take_staged new (.inl rfl)
          | prepare => exact take_staged new (.inr rfl)
        rcases stage with compiled | same
        · exact .inl compiled
        · exact .inr ⟨same.prepared.trans new, same.unplanned unplanned⟩

theorem Staged.acts {q : Query} (h : q.Staged) (as : List Act) : (q.acts as).Staged := by
  induction as generalizing q with
  | nil => exact h
  | cons a as ih => exact ih (h.act a)

/-! ## After the failure -/

/-- A query refuses whatever would compile or execute it, and is not changed by that. -/
structure Refuses (q : Query) : Prop where
  compile : q.take .compile = (some .notReady, q)
  prepare : q.take .prepare = (some .notReady, q)
  execute : q.execute = (.error .notReady, q)
  run : ∀ b n, q.run b n = q

theorem refuses_of_failed {q : Query} (failed : q.state.failed = true) : q.Refuses := by
  have refused {way : QueryStep} (compiles : way = .compile ∨ way = .prepare) :
      q.take way = (some .notReady, q) := by
    unfold take
    rw [QueryState.take_of_failed compiles failed]
  have execute : q.execute = (.error .notReady, q) := by
    unfold Query.execute
    rw [failed]
    rfl
  refine ⟨refused (.inl rfl), refused (.inr rfl), execute, fun b n => ?_⟩
  rw [Query.run, execute]

/-- A failed query of which compiling has made nothing. -/
structure Dead (q : Query) : Prop where
  failed : q.state.failed = true
  unplanned : q.state.Unplanned

theorem Dead.act {q : Query} (h : q.Dead) (a : Act) : (q.act a).Dead := by
  have refuses := refuses_of_failed h.failed
  cases a with
  | run b n =>
      rw [show q.act (.run b n) = q from refuses.run b n]
      exact h
  | step way =>
      cases way with
      | edit e =>
          obtain ⟨_, -, failed⟩ := q.state.edit_recorded e
          exact ⟨failed.mpr (.inl h.failed), (q.state.edit_sameStage e).unplanned h.unplanned⟩
      | compile =>
          show (q.take .compile).2.Dead
          rw [refuses.compile]
          exact h
      | prepare =>
          show (q.take .prepare).2.Dead
          rw [refuses.prepare]
          exact h

theorem Dead.acts {q : Query} (h : q.Dead) (as : List Act) : (q.acts as).Dead := by
  induction as generalizing q with
  | nil => exact h
  | cons a as ih => exact ih (h.act a)

/-- **A query that cannot be compiled stays failed.**  The first attempt to compile a query of
the built-in language, by itself or in a preparation, fails exactly if a name in it has no IRI
or there is nothing to select.  The error is that of the first name without an IRI, and
`noVariables` if all have one.  It is the one new diagnostic.  Whatever is done to the query
after that, it is failed and has neither variables nor an order nor a constraint, and it
refuses to be compiled, prepared or executed, without another diagnostic. -/
theorem failure_latches {config : Config} {text : Option String} {q₀ : Query}
    (created : Query.create .triples config text = .ok q₀) {before : List Act}
    (sound : (q₀.acts before).state.failed = false)
    (new : (q₀.acts before).state.compiled = false)
    {way : QueryStep} (compiles : way = .compile ∨ way = .prepare) :
    let q := q₀.acts before
    ((q.take way).1 ≠ none ↔ (∃ t ∈ q.state.occurrences, ¬ q.state.resolver.Resolves t) ∨
      (∀ t ∈ q.state.occurrences, q.state.resolver.Resolves t) ∧ q.state.Vacant) ∧
    ∀ e, (q.take way).1 = some e →
      q.state.Fault e ∧
      (e = .noVariables ↔ ∀ t ∈ q.state.occurrences, q.state.resolver.Resolves t) ∧
      (q.take way).2.state.diagnostics =
        q.state.diagnostics ++ [⟨e.severity, e.message, q.state.locator⟩] ∧
      ∀ after, let later := (q.take way).2.acts after
        later.state.failed = true ∧ later.state.Unplanned ∧ later.Refuses := by
  intro q
  have staged : q.Staged := (staged_of_create created).acts before
  obtain ⟨unprepared, unplanned⟩ : q.state.prepared = false ∧ q.state.Unplanned := by
    refine staged.stage.resolve_left fun compiled => ?_
    rw [new] at compiled
    cases compiled
  refine ⟨?_, fun e stopped => ?_⟩
  · rw [← QueryState.not_compilable]
    refine not_congr ?_
    rcases compiles with rfl | rfl
    · exact (QueryState.compile_eq new).1.trans (and_iff_right sound)
    · exact (Fresh.prepare_eq ⟨staged.engine, unprepared, new⟩).1.trans (and_iff_right sound)
  · have failed : q.state.Fault e ∧ q.state.FailedBy e (q.take way).2.state := by
      rw [take_of_triples staged.engine] at stopped ⊢
      exact QueryState.take_failedBy compiles sound stopped
    obtain ⟨fault, failed⟩ := failed
    refine ⟨fault, fault.noVariables_iff, failed.diagnostics, fun after => ?_⟩
    have dead : ((q.take way).2.acts after).Dead :=
      Dead.acts ⟨failed.failed, failed.stage.unplanned unplanned⟩ after
    exact ⟨dead.failed, dead.unplanned, refuses_of_failed dead.failed⟩

/-- A prefix that is declared after the query has failed comes too late. -/
theorem undeclared_latches :
    let q := blank.acts [.step (.edit (.addPattern ⟨.named "x", .qname "ex:knows", .named "y"⟩))]
    let later := (q.take .prepare).2.acts
      [.step (.edit (.addPrefix ⟨"ex", "http://example.org/"⟩)), .step .compile]
    (q.take .prepare).1 = some (.undeclaredPrefix "ex" "ex:knows") ∧
      later.state.failed = true ∧ later.Refuses := by
  intro q later
  have created : Query.create .triples .default none = .ok blank := rfl
  have stopped : (q.take .prepare).1 = some (.undeclaredPrefix "ex" "ex:knows") := by
    decide +kernel
  obtain ⟨-, -, -, latched⟩ := (failure_latches created rfl rfl (.inr rfl)).2 _ stopped
  obtain ⟨failed, -, refuses⟩ := latched
    [.step (.edit (.addPrefix ⟨"ex", "http://example.org/"⟩)), .step .compile]
  exact ⟨stopped, failed, refuses⟩

end Query

end GraphPattern
