/-
# What is recorded in the life of a query

A caller acts on a query: it edits, compiles, prepares and executes it, and each execution
runs its join for a while.  The hooks of the query's language act on it too.  All that any
of them does is `Recorded`: diagnostics are only added, and the query is failed from the
first grave one on.  `execute_after` says what this means for an execution: it is refused
if something grave was recorded before.  What the hook records that runs in the execution
itself comes too late for that, as `loud_starts` shows.
-/
import GraphPattern.Proofs.Join.Course
import GraphPattern.Proofs.Join.Refinement
import GraphPattern.Proofs.Query.Compile

namespace GraphPattern

/-- A grave diagnostic fails its query. -/
def Diagnostic.Grave (d : Diagnostic) : Prop := d.severity.invalidates = true

/-! ## Languages -/

/-- One state of a query has become another by steps, with prepare hooks that do no more
themselves, and calls were written down on the way. -/
inductive QueryState.Touched : QueryState → QueryState → Prop where
  | refl (s : QueryState) : Touched s s
  | note {s t : QueryState} (h : Touched s t) (call : HookCall) : Touched s (t.noteCall call)
  | step {s t : QueryState} (h : Touched s t)
      (hook : QueryState → Option QueryError × QueryState)
      (lawful : ∀ u, Touched u (hook u).2) (a : QueryStep) : Touched s (t.take hook a).2

/-- The hooks of a language act on a query by steps and may write down their calls.  They may
return what they like. -/
structure Language.Lawful (l : Language) : Prop where
  init : ∀ name s, QueryState.Touched s (l.init name s).2
  prepare : ∀ s, QueryState.Touched s (l.prepare s).2
  execute : ∀ s, QueryState.Touched s (l.execute s).2

namespace QueryState

variable {s t u : QueryState}

theorem Touched.trans (h : Touched s t) (h' : Touched t u) : Touched s u := by
  induction h' with
  | refl => exact h
  | note _ call ih => exact (ih h).note call
  | step _ hook lawful a ih _ => exact (ih h).step hook lawful a

theorem touched_takeAll (hook : QueryState → Option QueryError × QueryState)
    (lawful : ∀ u, Touched u (hook u).2) (steps : List QueryStep)
    (s : QueryState) : Touched s (s.takeAll hook steps) := by
  induction steps generalizing s with
  | nil => exact .refl s
  | cons a steps ih => exact ((Touched.refl s).step hook lawful a).trans (ih _)

theorem touched_compile (s : QueryState) : Touched s s.compile.2 :=
  (Touched.refl s).step (fun s => (none, s)) .refl .compile

end QueryState

theorem Language.patterns_lawful : patterns.Lawful :=
  ⟨fun _ => .refl, QueryState.touched_compile, .refl⟩

theorem Language.ofScript_lawful (l : Script) : (ofScript l).Lawful := by
  have noted (call : HookCall) (s : QueryState) : s.Touched (s.noteCall call) :=
    (QueryState.Touched.refl s).note call
  have prepare : ∀ s, QueryState.Touched s (l.prepareHook s).2 := by
    intro s
    have steps := (noted .prepare s).trans
      (QueryState.touched_takeAll (fun s => (none, s.noteCall .prepare)) (noted .prepare)
        l.prepare.steps _)
    unfold Script.prepareHook HookScript.run
    cases l.prepare.error with
    | some e => exact steps
    | none =>
        dsimp only
        split
        · exact steps
        · exact steps.trans (QueryState.touched_compile _)
  exact ⟨fun engine s => (noted (.init engine) s).trans
      (QueryState.touched_takeAll _ prepare l.init.steps _), prepare,
    fun s => (noted .execute s).trans (QueryState.touched_takeAll _ prepare l.execute.steps _)⟩

/-! ## What steps record -/

namespace QueryState

/-- Diagnostics have been added to a state, and it is failed from the first grave one on. -/
def Recorded (s t : QueryState) : Prop :=
  ∃ new, t.diagnostics = s.diagnostics ++ new ∧
    (t.failed = true ↔ s.failed = true ∨ ∃ d ∈ new, d.Grave)

variable {s t u : QueryState} {hook : QueryState → Option QueryError × QueryState}

theorem Recorded.of_eq (diagnostics : t.diagnostics = s.diagnostics)
    (failed : t.failed = s.failed) : Recorded s t :=
  ⟨[], by rw [diagnostics, List.append_nil], by simp [failed]⟩

theorem Recorded.refl (s : QueryState) : Recorded s s := .of_eq rfl rfl

theorem Recorded.trans (h : Recorded s t) (h' : Recorded t u) : Recorded s u := by
  obtain ⟨new, diagnostics, failed⟩ := h
  obtain ⟨new', diagnostics', failed'⟩ := h'
  refine ⟨new ++ new', by rw [diagnostics', diagnostics, List.append_assoc], ?_⟩
  rw [failed', failed, or_assoc]
  simp only [List.mem_append, or_and_right, exists_or]

theorem report_recorded (s : QueryState) (severity : Severity) (message : String) :
    Recorded s (s.report severity message) := by
  obtain ⟨delivered, reported⟩ := s.report_eq severity message
  rw [reported]
  exact ⟨[⟨severity, message, s.locator⟩], rfl, by simp [Diagnostic.Grave]⟩

theorem foldl_report_recorded (severity : Severity) (message : String → String)
    (names : List String) (s : QueryState) :
    Recorded s (names.foldl (fun s name => s.report severity (message name)) s) := by
  induction names generalizing s with
  | nil => exact .refl s
  | cons name names ih => exact (s.report_recorded severity (message name)).trans (ih _)

theorem edit_recorded (s : QueryState) (e : QueryEdit) : Recorded s (s.edit e) := by
  cases e with
  | report severity message => exact s.report_recorded severity message
  | reportError e => exact s.report_recorded e.severity e.message
  | _ => exact .of_eq rfl rfl

theorem resolveNames_recorded (s : QueryState) : Recorded s s.resolveNames.2 := by
  unfold resolveNames
  dsimp only
  split <;> exact .of_eq rfl rfl

theorem assignSlots_recorded (s : QueryState) : Recorded s s.assignSlots.2 := by
  unfold assignSlots
  split
  · exact .of_eq rfl rfl
  · next a _ =>
      have warned := foldl_report_recorded .warning duplicateMessage a.duplicates
        { s with patterns := a.patterns, constraints := a.constraints, table := a.table }
      exact (Recorded.of_eq rfl rfl).trans (warned.trans (.of_eq rfl rfl))

theorem compile_recorded (s : QueryState) : Recorded s s.compile.2 := by
  have stages : Recorded s s.compileStages.2 := by
    have resolved := s.resolveNames_recorded
    unfold compileStages
    split
    · next stopped => rwa [stopped] at resolved
    · next passed =>
        rw [passed] at resolved
        exact resolved.trans (assignSlots_recorded _)
  rcases s.compile_cases with ⟨-, same⟩ | ⟨-, -, same⟩ | ⟨-, -, ⟨e, -, same⟩ | same⟩
  · rw [same]
    exact .refl s
  · rw [same]
    exact .refl s
  · rw [same]
    exact stages.trans (report_recorded _ _ _)
  · rw [same]
    exact stages.trans (.of_eq rfl rfl)

theorem prepareWith_recorded (hooked : ∀ u, Recorded u (hook u).2) (s : QueryState) :
    Recorded s (s.prepareWith hook).2 := by
  have called : Recorded s (hook s).2 := hooked s
  unfold prepareWith
  split
  · exact .refl s
  · split
    · exact .refl s
    · split
      · next passed =>
          rw [passed] at called
          exact called.trans (.of_eq rfl rfl)
      · next stopped =>
          rw [stopped] at called
          dsimp only
          split
          · exact called
          · exact called.trans (report_recorded _ _ _)

theorem take_recorded (hooked : ∀ u, Recorded u (hook u).2) (s : QueryState) (a : QueryStep) :
    Recorded s (s.take hook a).2 := by
  cases a with
  | edit e => exact s.edit_recorded e
  | compile => exact s.compile_recorded
  | prepare => exact prepareWith_recorded hooked s

theorem Touched.recorded (h : Touched s t) : Recorded s t := by
  induction h with
  | refl s => exact .refl s
  | note _ call ih => exact ih.trans (.of_eq rfl rfl)
  | step _ hook _ a ih hooked => exact ih.trans (take_recorded hooked _ a)

end QueryState

/-! ## Acts of a caller -/

namespace Query

/-- What a caller does to a query: a step, or an execution whose join is pulled some times
and given up. -/
inductive Act where
  | step (a : QueryStep)
  | run (b : Backend BackendState) (pulls : Nat)

/-- Executes a query and runs the join, if it is not refused. -/
def run (q : Query) (b : Backend BackendState) (n : Nat) : Query :=
  match q.execute with
  | (.error _, q) => q
  | (.ok started, q) => q.conclude b (JoinState.pulls started.plan b n started.join)

def act (q : Query) : Act → Query
  | .step a => (q.take a).2
  | .run b n => q.run b n

def acts (q : Query) (as : List Act) : Query := as.foldl act q

theorem execute_engine (q : Query) : q.execute.2.engine = q.engine := by
  unfold execute
  split
  · rfl
  · split <;> rfl

theorem act_engine (q : Query) (a : Act) : (q.act a).engine = q.engine := by
  cases a with
  | step a => rfl
  | run b n =>
      have same := q.execute_engine
      unfold act run
      dsimp only
      split
      · next refused => rwa [refused] at same
      · next started => rwa [started] at same

theorem acts_engine (as : List Act) (q : Query) : (q.acts as).engine = q.engine := by
  induction as generalizing q with
  | nil => rfl
  | cons a as ih => exact (ih _).trans (q.act_engine a)

variable {q : Query} (lawful : q.engine.language.Lawful)

include lawful

theorem execute_recorded : q.state.Recorded q.execute.2.state := by
  have called : q.state.Recorded (q.engine.language.execute q.state).2 :=
    (lawful.execute _).recorded
  unfold execute
  split
  · exact .refl _
  · split
    · next stopped =>
        rw [stopped] at called
        exact called.trans (QueryState.report_recorded _ _ _)
    · next passed => rwa [passed] at called

theorem act_recorded (a : Act) : q.state.Recorded (q.act a).state := by
  cases a with
  | step a => exact QueryState.take_recorded (fun u => (lawful.prepare u).recorded) q.state a
  | run b n =>
      have executed := execute_recorded lawful
      unfold act run
      dsimp only
      split
      · next refused => rwa [refused] at executed
      · next started =>
          rw [started] at executed
          exact executed.trans (.of_eq rfl rfl)

theorem acts_recorded (as : List Act) : q.state.Recorded (q.acts as).state := by
  induction as generalizing q with
  | nil => exact .refl _
  | cons a as ih =>
      have first := act_recorded lawful a
      have lawful' : (q.act a).engine.language.Lawful := by
        rwa [act_engine]
      exact first.trans (ih lawful')

omit lawful

theorem create_recorded {engine : Engine} {config : Config} {text : Option String}
    (lawful : engine.language.Lawful) (created : Query.create engine config text = .ok q) :
    q.engine = engine ∧ (QueryState.new config text).Recorded q.state := by
  have called := (lawful.init engine.name (.new config text)).recorded
  unfold create at created
  split at created
  · next passed =>
      cases created
      rw [passed] at called
      exact ⟨rfl, called.trans (.of_eq rfl rfl)⟩
  · cases created

/-- **When a query starts a join.**  Whatever its language and its callers have done, it is
failed exactly if something grave was recorded; then an execution is refused and changes
nothing.  An execution that starts a join had nothing grave before it.  The query is still
not failed exactly if the hook that runs in the execution has recorded nothing grave. -/
theorem execute_after {engine : Engine} (lawful : engine.language.Lawful) {config : Config}
    {text : Option String} {q₀ : Query} (created : Query.create engine config text = .ok q₀)
    (as : List Act) :
    let q := q₀.acts as
    (q.state.failed = true ↔ ∃ d ∈ q.state.diagnostics, d.Grave) ∧
      ((∃ d ∈ q.state.diagnostics, d.Grave) → q.execute = (.error .notReady, q)) ∧
      ∀ started, q.execute.1 = .ok started →
        (∀ d ∈ q.state.diagnostics, ¬ d.Grave) ∧ q.state.prepared = true ∧
          ∃ new, q.execute.2.state.diagnostics = q.state.diagnostics ++ new ∧
            (q.execute.2.state.failed = false ↔ ∀ d ∈ new, ¬ d.Grave) := by
  intro q
  obtain ⟨rfl, first⟩ := create_recorded lawful created
  have failed : q.state.failed = true ↔ ∃ d ∈ q.state.diagnostics, d.Grave := by
    obtain ⟨new, diagnostics, failed⟩ := first.trans (acts_recorded lawful as)
    have none : (QueryState.new config text).diagnostics = [] := rfl
    rw [none, List.nil_append] at diagnostics
    rw [show q.state.diagnostics = new from diagnostics]
    simpa [QueryState.new] using failed
  refine ⟨failed, fun grave => ?_, fun started ok => ?_⟩
  · have : q.state.failed = true := failed.mpr grave
    unfold execute
    rw [this]
    rfl
  · have guard : (q.state.failed || !q.state.prepared) = false := by
      cases guard : (q.state.failed || !q.state.prepared) with
      | false => rfl
      | true =>
          unfold execute at ok
          rw [if_pos guard] at ok
          cases ok
    obtain ⟨notFailed, prepared⟩ := Bool.or_eq_false_iff.mp guard
    have lawful' : q.engine.language.Lawful := by
      rwa [show q.engine = q₀.engine from acts_engine as q₀]
    obtain ⟨new, diagnostics, failed'⟩ := execute_recorded lawful'
    refine ⟨fun d mem grave => ?_, by simpa using prepared, new, diagnostics, ?_⟩
    · rw [failed.mpr ⟨d, mem, grave⟩] at notFailed
      cases notFailed
    · rw [← Bool.not_eq_true, failed', notFailed]
      simp

/-! ## A hook that reports an error -/

/-- One pattern, and an execute hook that reports an error and lets the execution go on. -/
def loudScript : Language.Script where
  init := ⟨[.edit (.setSelectAll true),
    .edit (.addPattern ⟨.named "x", .term (.iri .xsdString), .named "y"⟩)], none⟩
  prepare := ⟨[], none⟩
  execute := ⟨[.edit (.report .error "boom")], none⟩
  skipCompile := false

def loud : Engine := { Engine.triples with name := "scripted", language := .ofScript loudScript }

/-- The query that the engine creates. -/
def loudQuery : Query :=
  ⟨loud, { (loud.language.init loud.name (.new .default none)).2 with initialized := true }⟩

/-- A query that its own execution fails starts a join all the same, and the join asks the
source. -/
theorem loud_starts :
    let q := loudQuery.acts [.step .prepare]
    let b := Backend.ofSource JoinState.chainStore.source .none
    Query.create loud .default none = .ok loudQuery ∧ loud.language.Lawful ∧
      q.execute.2.state.failed = true ∧
      ∃ started, q.execute.1 = .ok started ∧
        (JoinState.step started.plan b started.join).2.world.opens = 1 := by
  intro q b
  have asks : (match q.execute.1 with
      | .ok started => (JoinState.step started.plan b started.join).2.world.opens
      | .error _ => 0) = 1 := by decide +kernel
  refine ⟨rfl, Language.ofScript_lawful loudScript, by decide +kernel, ?_⟩
  cases executed : q.execute.1 with
  | error e =>
      rw [executed] at asks
      cases asks
  | ok started =>
      rw [executed] at asks
      exact ⟨started, rfl, asks⟩

/-- After such an execution the query is refused. -/
theorem loud_refused :
    let q := loudQuery.acts
      [.step .prepare, .run (.ofSource JoinState.chainStore.source .none) 0]
    q.execute = (.error .notReady, q) := by
  intro q
  have recorded : ⟨.error, "boom", .unknown⟩ ∈ q.state.diagnostics := by decide +kernel
  have created : Query.create loud .default none = .ok loudQuery := rfl
  exact (execute_after (Language.ofScript_lawful loudScript) created _).2.1 ⟨_, recorded, rfl⟩

end Query

end GraphPattern
