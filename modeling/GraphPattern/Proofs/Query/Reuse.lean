/-
# A prepared query can be executed again and again

Outside of an execution a query of the built-in language is `AtRest`: it names no pattern
twice in its order, and no variable of its table has a value.  A join that is given up, at
whatever point and for whatever reason, puts the table back as it was, so that an execution
changes the calls of hooks and the flag and nothing else.  What the next execution starts
from is therefore what the first one started from.
-/
import GraphPattern.Proofs.Query.Failure

namespace GraphPattern

/-! ## Tables without values -/

namespace VariableTable

def Unbound (T : VariableTable) : Prop := ∀ v ∈ T.entries, v.value = none

theorem Unbound.empty : VariableTable.empty.Unbound := nofun

theorem Unbound.reset_eq {T : VariableTable} (h : T.Unbound) : T.reset = T := by
  have same : T.entries.map (fun v => { v with value := none }) = T.entries := by
    refine (List.map_congr_left fun v mem => ?_).trans (List.map_id _)
    obtain ⟨name, id, selected, value⟩ := v
    obtain rfl : value = none := h _ mem
    rfl
  unfold reset
  rw [same]

theorem Unbound.push {T : VariableTable} (h : T.Unbound) (name : String) (selected : Bool) :
    (T.push name selected).Unbound := by
  intro v mem
  rcases List.mem_append.mp mem with old | new
  · exact h v old
  · rw [List.mem_singleton.mp new]

theorem Unbound.withName {T : VariableTable} (h : T.Unbound) (name : String) :
    (T.withName name).Unbound := by
  rw [VariableTable.withName]
  split
  · exact h
  · exact h.push name false

end VariableTable

namespace Visitor

variable {σ ε : Type}

/-- A visitor whose states have a property that its step keeps. -/
def keeping (v : Visitor σ ε) (P : σ → Prop)
    (keeps : ∀ {s} t, v.good s → P s → P (v.step s t).state) : Visitor σ ε :=
  { v with
    good := fun s => v.good s ∧ P s
    step_good := fun t h => ⟨v.step_good t h.1, keeps t h.1 h.2⟩
    step_later := fun t h => v.step_later t h.1
    step_failure := fun t h => v.step_failure t h.1
    step_covers := fun t h => v.step_covers t h.1
    step_image := fun t h => v.step_image t h.1 }

end Visitor

namespace Assignment

open VariableTable

theorem assignTerm_unbound {T : VariableTable} (t : PatternTerm) (h : T.Unbound) :
    (assignTerm T t).state.Unbound := by
  cases t with
  | named name =>
      rw [assignTerm_eq]
      exact h.withName name
  | _ => exact h

/-- The step of assigning, on tables without values. -/
def restingVisitor : Visitor VariableTable QueryError :=
  visitor.keeping Unbound fun t _ => assignTerm_unbound t

theorem select_unbound {s s' : Selection} {names : List String} (h : s.table.Unbound)
    (ok : select s names = .ok s') : s'.table.Unbound := by
  induction names generalizing s with
  | nil =>
      cases ok
      exact h
  | cons name names ih =>
      rcases select_cons_ok ok with ⟨-, rest⟩ | ⟨-, rest⟩
      · exact ih (s := { s with duplicates := s.duplicates ++ [name] }) h rest
      · exact ih (s := { s with table := s.table.push name true }) (h.push name true) rest

theorem assign_unbound {selects : List String} {selectAll : Bool}
    {patterns : List TriplePattern} {constraints : List Expression} {a : Assignment}
    (ok : assign selects selectAll patterns constraints = .ok a) : a.table.Unbound := by
  obtain ⟨s, selected, -, -, tableEq, -⟩ := assign_ok ok
  obtain ⟨s', selected', regular, -⟩ :=
    select_eq_ok (chosen selects selectAll patterns) (s := ⟨.empty, []⟩) .empty rfl
  obtain rfl : s = s' := Except.ok.inj (selected.symm.trans selected')
  have p := restingVisitor.visitPatterns patterns ⟨regular, select_unbound Unbound.empty selected⟩
  have c := restingVisitor.visitExpressions constraints p.good
  rw [tableEq]
  exact c.good.2

end Assignment

/-! ## Queries at rest -/

namespace QueryState

/-- No pattern comes twice in the order, and no variable has a value. -/
structure AtRest (s : QueryState) : Prop where
  distinct : s.order.Nodup
  unbound : s.table.Unbound

variable {s s' : QueryState}

theorem SameStage.atRest (same : s.SameStage s') (h : s.AtRest) : s'.AtRest :=
  ⟨same.order ▸ h.distinct, same.table ▸ h.unbound⟩

theorem compileStages_unbound (h : s.table.Unbound) : s.compileStages.2.table.Unbound := by
  have assigned (s : QueryState) (h : s.table.Unbound) : s.assignSlots.2.table.Unbound := by
    unfold assignSlots
    split
    · exact h
    · next a ok =>
        obtain ⟨delivered, diagnostics, warned⟩ := report_warnings_eq duplicateMessage a.duplicates
          { s with patterns := a.patterns, constraints := a.constraints, table := a.table }
        dsimp only
        rw [warned]
        exact Assignment.assign_unbound ok
  obtain ⟨patterns, constraints, same⟩ := s.resolveNames_rewritten
  unfold compileStages
  generalize s.resolveNames = resolved at same
  obtain ⟨e, t⟩ := resolved
  obtain rfl : t = _ := same
  cases e with
  | some e => exact h
  | none => exact assigned _ h

theorem sound_of_compile (h : s.compile.1 = none) : s.compile.2.failed = false := by
  rcases s.compile_cases with ⟨-, same⟩ | ⟨sound, -, same⟩ | ⟨sound, new, ⟨e, -, same⟩ | -⟩
  · rw [same] at h
    cases h
  · rwa [same]
  · rw [same] at h
    cases h
  · obtain ⟨a, planned⟩ := (compile_eq new).2 h
    exact planned.failed.trans sound

theorem AtRest.compile (h : s.AtRest) : s.compile.2.AtRest := by
  rcases s.compile_cases with ⟨-, same⟩ | ⟨-, -, same⟩ | ⟨-, new, ⟨e, fault, same⟩ | same⟩
  · rwa [same]
  · rwa [same]
  · rw [same]
    exact fault.failedBy.stage.atRest h
  · obtain ⟨a, planned⟩ := (compile_eq new).2 (congrArg Prod.fst same)
    refine ⟨?_, ?_⟩
    · rw [planned.order]
      exact (PlanStrategy.plan_perm _ _).nodup_iff.mpr List.nodup_range
    · rw [same]
      exact compileStages_unbound h.unbound

theorem AtRest.take (h : s.AtRest) (a : QueryStep) :
    (s.take QueryState.compile a).2.AtRest := by
  cases a with
  | edit e => exact (s.edit_sameStage e).atRest h
  | compile => exact h.compile
  | prepare =>
      show (s.prepareWith QueryState.compile).2.AtRest
      rcases s.prepare_cases with ⟨-, same⟩ | ⟨-, -, same⟩ | ⟨-, -, ⟨_, -, same⟩ | ⟨-, same⟩⟩
      · rwa [same]
      · rwa [same]
      · rw [same]
        exact h.compile
      · rw [same]
        exact ⟨h.compile.distinct, h.compile.unbound⟩

theorem ready_of_prepare (h : (s.prepareWith QueryState.compile).1 = none) :
    (s.prepareWith QueryState.compile).2.failed = false ∧
      (s.prepareWith QueryState.compile).2.prepared = true := by
  rcases s.prepare_cases with ⟨-, same⟩ | ⟨sound, prepared, same⟩ |
    ⟨-, -, ⟨e, stopped, same⟩ | ⟨ok, same⟩⟩
  · rw [same] at h
    cases h
  · rw [same]
    exact ⟨sound, prepared⟩
  · rw [same, stopped] at h
    cases h
  · rw [same]
    exact ⟨sound_of_compile ok, rfl⟩

/-- What executions may change: the flag. -/
def SameButFlag (s s' : QueryState) : Prop := ∃ aborted, s' = { s with aborted := aborted }

theorem SameButFlag.refl (s : QueryState) : s.SameButFlag s := ⟨_, rfl⟩

theorem SameButFlag.trans {s'' : QueryState} (h : s.SameButFlag s') (h' : s'.SameButFlag s'') :
    s.SameButFlag s'' := by
  obtain ⟨_, rfl⟩ := h
  obtain ⟨_, rfl⟩ := h'
  exact ⟨_, rfl⟩

theorem SameButFlag.atRest (same : s.SameButFlag s') (h : s.AtRest) : s'.AtRest := by
  obtain ⟨_, rfl⟩ := same
  exact ⟨h.distinct, h.unbound⟩

end QueryState

/-! ## Executions -/

namespace Query

/-- **An execution leaves the query as it was**, apart from the flag: however far its join
got, the table is put back. -/
theorem run_sameButFlag {q : Query} (engine : q.engine = .triples) (rest : q.state.AtRest)
    (b : Backend BackendState) (n : Nat) : q.state.SameButFlag (q.run b n).state := by
  rcases run_cases engine b n with same | ⟨-, aborted, same⟩
  · rw [same]
    exact .refl _
  · have orderly := (JoinState.start_orderly (started q.state).plan q.state.table
      ⟨q.state.aborted, 0, 0⟩).pulls (b := b) rest.distinct n
    -- the ended join declares the same variables, and neither table has values
    have declared := (orderly.finish b).declared
    rw [(JoinState.finish_over b _).table, rest.unbound.reset_eq] at declared
    rw [same]
    have table :
        ((JoinState.pulls (started q.state).plan b n (started q.state).join).finish b).table =
          q.state.table := declared
    rw [table]
    exact ⟨_, rfl⟩

/-- An act that executes a query, or raises or lowers its flag. -/
inductive Act.Executes : Act → Prop where
  | run (b : Backend BackendState) (pulls : Nat) : Executes (.run b pulls)
  | abort : Executes (.step (.edit .abort))
  | resetAbort : Executes (.step (.edit .resetAbort))

theorem atRest_of_create {config : Config} {text : Option String} {q : Query}
    (created : Query.create .triples config text = .ok q) : q.state.AtRest := by
  cases created
  exact ⟨List.nodup_nil, .empty⟩

theorem acts_atRest {q : Query} (engine : q.engine = .triples) (rest : q.state.AtRest)
    (as : List Act) : (q.acts as).state.AtRest := by
  induction as generalizing q with
  | nil => exact rest
  | cons a as ih =>
      refine ih ((q.act_engine a).trans engine) ?_
      cases a with
      | step a =>
          show (q.take a).2.state.AtRest
          rw [take_of_triples engine]
          exact rest.take a
      | run b n => exact (run_sameButFlag engine rest b n).atRest rest

theorem executions_sameButFlag {q : Query} (engine : q.engine = .triples)
    (rest : q.state.AtRest) {history : List Act} (only : ∀ a ∈ history, a.Executes) :
    q.state.SameButFlag (q.acts history).state := by
  induction history generalizing q with
  | nil => exact .refl _
  | cons a history ih =>
      obtain ⟨first, others⟩ := List.forall_mem_cons.mp only
      have same : q.state.SameButFlag (q.act a).state := by
        cases first with
        | run b n => exact run_sameButFlag engine rest b n
        | abort => exact ⟨_, rfl⟩
        | resetAbort => exact ⟨_, rfl⟩
      exact same.trans (ih ((q.act_engine a).trans engine) (same.atRest rest) others)

/-- **Executions leave no trace.**  When a query of the built-in language has been prepared
and then executed any number of times, over any sources, each time pulled as often as its
caller likes and ended by whatever came, no variable has a value; and with the flag lowered
the next execution starts the very join that an execution right after the preparation
starts, so that over any source both deliver the same. -/
theorem executions_leave_no_trace {config : Config} {text : Option String} {q₀ : Query}
    (created : Query.create .triples config text = .ok q₀) (before : List Act)
    (ok : ((q₀.acts before).take .prepare).1 = none) {history : List Act}
    (only : ∀ a ∈ history, a.Executes) :
    let ready := ((q₀.acts before).take .prepare).2
    let later := ready.acts history
    (∀ v ∈ later.state.table.entries, v.value = none) ∧
      ∃ j, (ready.take (.edit .resetAbort)).2.execute.1 = .ok j ∧
        (later.take (.edit .resetAbort)).2.execute.1 = .ok j := by
  intro ready later
  have engine₀ : q₀.engine = .triples := by
    cases created
    rfl
  have engine : (q₀.acts before).engine = .triples := (acts_engine before q₀).trans engine₀
  have rest : ready.state.AtRest := by
    have rest := acts_atRest engine₀ (atRest_of_create created) before
    show ((q₀.acts before).take .prepare).2.state.AtRest
    rw [take_of_triples engine]
    exact rest.take .prepare
  obtain ⟨sound, prepared⟩ : ready.state.failed = false ∧ ready.state.prepared = true := by
    show ((q₀.acts before).take .prepare).2.state.failed = false ∧
      ((q₀.acts before).take .prepare).2.state.prepared = true
    rw [take_of_triples engine] at ok ⊢
    exact QueryState.ready_of_prepare ok
  have same : ready.state.SameButFlag later.state :=
    executions_sameButFlag (q := ready) engine rest only
  have engine' : later.engine = .triples := (acts_engine history ready).trans engine
  obtain ⟨aborted, changed⟩ := same
  refine ⟨?_, _, execute_eq (q := (ready.take (.edit .resetAbort)).2) engine prepared sound, ?_⟩
  · rw [changed]
    exact rest.unbound
  · have prepared' : later.state.prepared = true := by
      rw [changed]
      exact prepared
    have sound' : later.state.failed = false := by
      rw [changed]
      exact sound
    have again := execute_eq (q := (later.take (.edit .resetAbort)).2) engine' prepared' sound'
    have lowered : (later.take (.edit .resetAbort)).2.state =
        { later.state with aborted := false } := rfl
    rw [lowered, changed] at again
    exact again

/-- A chain is executed over a source that fails, with the flag raised, and with a row left
unread; then it starts as it did at first. -/
theorem chain_without_trace :
    let ready := ((blank.acts chainActs).take .prepare).2
    let source := JoinState.chainStore.source
    let later := ready.acts
      [.run (.ofSource source ⟨none, some 0, none⟩) 3, .run (.ofSource source ⟨none, none, some 1⟩) 2,
        .run (.ofSource source .none) 1, .step (.edit .resetAbort), .run (.ofSource source .none) 1]
    ((blank.acts chainActs).take .prepare).1 = none ∧
      (∀ v ∈ later.state.table.entries, v.value = none) ∧
      ∃ j, (ready.take (.edit .resetAbort)).2.execute.1 = .ok j ∧
        (later.take (.edit .resetAbort)).2.execute.1 = .ok j := by
  intro ready source later
  have created : Query.create .triples .default none = .ok blank := rfl
  have ok : ((blank.acts chainActs).take .prepare).1 = none := by decide +kernel
  refine ⟨ok, executions_leave_no_trace created chainActs ok ?_⟩
  simp only [List.forall_mem_cons]
  exact ⟨.run _ _, .run _ _, .run _ _, .resetAbort, .run _ _, List.forall_mem_nil _⟩

end Query

end GraphPattern
