/-
# What compiling has made of a query stays

Compiling puts slots into the patterns and the constraints of a query and plans a join
of the patterns.  Patterns and constraints may be added later, but what was compiled is
kept (`Keeps`) by everything that a caller may do, and stays `Executable`: the plan is one
of the first patterns, and whatever stands in them and in the constraint is a term or a
variable of the table.  A join that is started from such a query fails only by what its
source or the flag does, and never leaves the lists that it works on (`InRange`).
-/
import GraphPattern.Proofs.Join.Discipline
import GraphPattern.Proofs.Query.History
import GraphPattern.Proofs.Query.Independence

namespace GraphPattern

/-! ## Slots from outside -/

/-- An edit brings no slot into a query. -/
def QueryEdit.SlotFree : QueryEdit → Prop
  | .addPattern p => ∀ t ∈ p.terms, ∀ id, t ≠ .slot id
  | .addConstraint e => ∀ t ∈ e.leaves, ∀ id, t ≠ .slot id
  | _ => True

/-- An act brings no slot into a query. -/
def Query.Act.SlotFree : Query.Act → Prop
  | .step (.edit e) => e.SlotFree
  | _ => True

namespace QueryState

/-! ## Compiling and preparing -/

theorem failed_of_fault {s : QueryState} {e : QueryError} (h : s.Fault e) (t : QueryState) :
    (t.reportError e).failed = true := by
  obtain ⟨delivered, reported⟩ := t.report_eq e.severity e.message
  rw [reportError, reported, h.severity]
  exact Bool.or_true _

theorem failed_of_compile {s : QueryState} {e : QueryError} (h : s.compile.1 = some e) :
    s.compile.2.failed = true := by
  rcases s.compile_cases with ⟨failed, same⟩ | ⟨-, -, same⟩ | ⟨-, -, ⟨e', fault, same⟩ | same⟩
  · rwa [same]
  · rw [same] at h
    cases h
  · rw [same]
    exact failed_of_fault fault _
  · rw [same] at h
    cases h

theorem compiled_of_compile {s : QueryState} (h : s.compile.1 = none) :
    s.compile.2.compiled = true := by
  rcases s.compile_cases with ⟨-, same⟩ | ⟨-, compiled, same⟩ | ⟨-, -, ⟨e', -, same⟩ | same⟩
  · rw [same] at h
    cases h
  · rwa [same]
  · rw [same] at h
    cases h
  · rw [same]

/-- What preparing by compiling does: what compiling has reported is not reported again. -/
theorem prepare_cases (s : QueryState) :
    s.failed = true ∧ s.prepareWith compile = (some .notReady, s) ∨
      s.failed = false ∧ s.prepared = true ∧ s.prepareWith compile = (none, s) ∨
      s.failed = false ∧ s.prepared = false ∧
        ((∃ e, s.compile.1 = some e ∧ s.prepareWith compile = s.compile) ∨
          s.compile.1 = none ∧
            s.prepareWith compile = (none, { s.compile.2 with prepared := true })) := by
  unfold prepareWith
  cases failed : s.failed with
  | true => exact .inl ⟨rfl, rfl⟩
  | false =>
      cases prepared : s.prepared with
      | true => exact .inr (.inl ⟨rfl, rfl, rfl⟩)
      | false =>
          refine .inr (.inr ⟨rfl, rfl, ?_⟩)
          cases answer : s.compile.1 with
          | some e =>
              have failed' := failed_of_compile answer
              refine .inl ⟨e, rfl, ?_⟩
              generalize s.compile = called at answer failed'
              obtain ⟨_, s'⟩ := called
              obtain rfl : _ = some e := answer
              simp [show s'.failed = true from failed']
          | none =>
              refine .inr ⟨rfl, ?_⟩
              generalize s.compile = called at answer
              obtain ⟨_, s'⟩ := called
              obtain rfl : _ = none := answer
              rfl

theorem compiled_of_prepare {s : QueryState} (new : s.prepared = false)
    (h : (s.prepareWith compile).1 = none) : (s.prepareWith compile).2.compiled = true := by
  rcases s.prepare_cases with ⟨-, same⟩ | ⟨-, prepared, -⟩ | ⟨-, -, ⟨e, stopped, same⟩ | ⟨ok, same⟩⟩
  · rw [same] at h
    cases h
  · rw [new] at prepared
    cases prepared
  · rw [same, stopped] at h
    cases h
  · rw [same]
    exact compiled_of_compile ok

/-! ## Executable queries -/

/-- A join of the first `n` patterns can be run: they are planned, each once, and what
stands in them and in the constraint is a term or a variable of the table. -/
structure Executable (n : Nat) (s : QueryState) : Prop where
  order : s.order.Perm (List.range n)
  enough : n ≤ s.patterns.length
  patterns : ∀ p ∈ s.patterns.take n, p.Within s.table.size
  constraint : ∀ e, s.constraint = some e → ∀ t ∈ e.leaves, t.Within s.table.size
  selected : s.table.selectCount ≤ s.table.size

theorem mem_leaves_foldl_both {es : List Expression} {e : Expression} {t : PatternTerm}
    (h : t ∈ (es.foldl Expression.both e).leaves) : ∃ f ∈ e :: es, t ∈ f.leaves := by
  induction es generalizing e with
  | nil => exact ⟨e, List.mem_cons_self, h⟩
  | cons f es ih =>
      obtain ⟨g, mem, leaf⟩ := ih h
      rcases List.mem_cons.mp mem with rfl | mem
      · rcases List.mem_append.mp leaf with leaf | leaf
        · exact ⟨e, List.mem_cons_self, leaf⟩
        · exact ⟨f, List.mem_cons_of_mem _ List.mem_cons_self, leaf⟩
      · exact ⟨g, List.mem_cons_of_mem _ (List.mem_cons_of_mem _ mem), leaf⟩

theorem mem_leaves_conjunction {es : List Expression} {e : Expression} {t : PatternTerm}
    (joined : conjunction es = some e) (h : t ∈ e.leaves) : ∃ f ∈ es, t ∈ f.leaves := by
  cases es with
  | nil => cases joined
  | cons f es =>
      cases joined
      exact mem_leaves_foldl_both h

theorem Planned.executable {s s' : QueryState} {a : Assignment}
    (plain : ∀ t ∈ s.occurrences, t.Plain) (planned : s.Planned a s') :
    s'.Executable s.patterns.length := by
  have patterns : s'.patterns = s.patterns.map fun p => p.map a.table.slotted :=
    planned.patterns_eq
  have count : s'.patterns.length = s.patterns.length := by
    rw [patterns, List.length_map]
  refine ⟨?_, Nat.le_of_eq count.symm, fun p mem => ?_, fun e joined t leaf => ?_, ?_⟩
  · rw [← count, planned.order, planned.patterns]
    exact PlanStrategy.plan_perm _ _
  · rw [planned.table]
    exact planned.within plain p (List.mem_of_mem_take mem)
  · rw [planned.constraint, planned.assigns.constraints_eq] at joined
    obtain ⟨f, mem, leaf⟩ := mem_leaves_conjunction joined leaf
    obtain ⟨g, given, rfl⟩ := List.mem_map.mp mem
    rw [Expression.leaves_map] at leaf
    obtain ⟨u, own, rfl⟩ := List.mem_map.mp leaf
    obtain ⟨plain', covers⟩ := planned.constraintLeaf plain given own
    rw [planned.table]
    exact VariableTable.within_slotted planned.assigns.regular plain' covers
  · rw [planned.table]
    exact planned.assigns.regular.selectCount_le

/-! ## What is kept -/

/-- What compiling has made of `s` is there in `s'`: patterns may have been added behind the
planned ones, and the variables may have other values. -/
structure Keeps (s s' : QueryState) : Prop where
  compiled : s'.compiled = true
  order : s'.order = s.order
  patterns : s.patterns <+: s'.patterns
  declared : s'.table.reset = s.table.reset
  constraint : s'.constraint = s.constraint

theorem Keeps.executable {s s' : QueryState} {n : Nat} (keeps : Keeps s s')
    (h : s.Executable n) : s'.Executable n := by
  obtain ⟨size, selectCount⟩ := VariableTable.size_of_reset_eq keeps.declared
  obtain ⟨more, added⟩ := keeps.patterns
  refine ⟨keeps.order ▸ h.order, ?_, fun p mem => ?_, fun e joined => ?_, ?_⟩
  · exact Nat.le_trans h.enough keeps.patterns.length_le
  · rw [← added, List.take_append_of_le_length h.enough] at mem
    rw [size]
    exact h.patterns p mem
  · rw [size]
    exact h.constraint e (keeps.constraint ▸ joined)
  · rw [size, selectCount]
    exact h.selected

theorem Keeps.edit {s s' : QueryState} (keeps : Keeps s s') (e : QueryEdit) :
    Keeps s (s'.edit e) := by
  cases e with
  | addPattern p =>
      exact { keeps with patterns := keeps.patterns.trans (List.prefix_append _ _) }
  | report severity message =>
      obtain ⟨delivered, reported⟩ := s'.report_eq severity message
      rw [QueryState.edit, reported]
      exact { keeps with }
  | reportError e =>
      obtain ⟨delivered, reported⟩ := s'.report_eq e.severity e.message
      rw [QueryState.edit, reportError, reported]
      exact { keeps with }
  | _ => exact { keeps with }

theorem compile_of_compiled {s : QueryState} (h : s.compiled = true) : s.compile.2 = s := by
  unfold compile
  rw [if_pos h]
  split <;> rfl

theorem Keeps.take {s s' : QueryState} (keeps : Keeps s s') (a : QueryStep) :
    Keeps s (s'.take compile a).2 := by
  cases a with
  | edit e => exact keeps.edit e
  | compile =>
      show Keeps s s'.compile.2
      rwa [compile_of_compiled keeps.compiled]
  | prepare =>
      have again := compile_of_compiled keeps.compiled
      show Keeps s (s'.prepareWith compile).2
      rcases s'.prepare_cases with ⟨-, same⟩ | ⟨-, -, same⟩ | ⟨-, -, ⟨_, -, same⟩ | ⟨-, same⟩⟩
      · rwa [same]
      · rwa [same]
      · rwa [same, again]
      · rw [same, again]
        exact { keeps with }

end QueryState

namespace Query

/-! ## Executions -/

/-- Executing a query of the built-in language changes its table and its flag, if it is not
refused. -/
theorem run_cases {q : Query} (engine : q.engine = .triples) (b : Backend BackendState) (n : Nat) :
    q.run b n = q ∨ q.state.prepared = true ∧
      ∃ aborted, q.run b n = { q with state := { q.state with
        table :=
          ((JoinState.pulls (started q.state).plan b n (started q.state).join).finish b).table
        aborted := aborted } } := by
  obtain ⟨e, s⟩ := q
  obtain rfl : e = .triples := engine
  unfold run
  cases guard : (s.failed || !s.prepared) with
  | true =>
      refine .inl ?_
      unfold execute
      rw [if_pos guard]
  | false =>
      have prepared : s.prepared = true := by simpa using (Bool.or_eq_false_iff.mp guard).2
      refine .inr ⟨prepared, ?_⟩
      unfold execute
      rw [if_neg (by rw [guard]; exact Bool.false_ne_true)]
      exact ⟨_, rfl⟩

theorem run_keeps {s : QueryState} {n : Nat} {q : Query} (engine : q.engine = .triples)
    (executable : s.Executable n) (keeps : s.Keeps q.state) (b : Backend BackendState)
    (m : Nat) : s.Keeps (q.run b m).state := by
  rcases run_cases engine b m with same | ⟨-, aborted, same⟩
  · rwa [same]
  · have distinct : q.state.order.Nodup :=
      ((keeps.executable executable).order.nodup_iff).mpr List.nodup_range
    have ended := ((JoinState.start_orderly (started q.state).plan q.state.table
      ⟨q.state.aborted, 0, 0⟩).pulls (b := b) distinct m).finish b
    rw [same]
    exact { keeps with declared := ended.declared.trans keeps.declared }

theorem act_keeps {s : QueryState} {n : Nat} {q : Query} (engine : q.engine = .triples)
    (executable : s.Executable n) (keeps : s.Keeps q.state) (a : Act) :
    s.Keeps (q.act a).state := by
  cases a with
  | step a =>
      show s.Keeps (q.take a).2.state
      rw [take_of_triples engine]
      exact keeps.take a
  | run b m => exact run_keeps engine executable keeps b m

/-- **What was compiled is kept** by whatever a caller does. -/
theorem acts_keeps {s : QueryState} {n : Nat} {q : Query} (engine : q.engine = .triples)
    (executable : s.Executable n) (keeps : s.Keeps q.state) (as : List Act) :
    s.Keeps (q.acts as).state := by
  induction as generalizing q with
  | nil => exact keeps
  | cons a as ih =>
      exact ih ((q.act_engine a).trans engine) (act_keeps engine executable keeps a)

theorem act_compiled {q : Query} (engine : q.engine = .triples) (compiled : q.state.compiled = true)
    (a : Act) : (q.act a).state.compiled = true := by
  cases a with
  | step a =>
      have keeps : q.state.Keeps q.state := ⟨compiled, rfl, List.prefix_rfl, rfl, rfl⟩
      show (q.take a).2.state.compiled = true
      rw [take_of_triples engine]
      exact (keeps.take a).compiled
  | run b n =>
      rcases run_cases engine b n with same | ⟨-, _, same⟩
      · exact (congrArg (·.state.compiled) same).trans compiled
      · exact (congrArg (·.state.compiled) same).trans compiled

/-! ## Before compiling -/

/-- A query of the built-in language is failed, or compiled, or has no slots yet. -/
structure Draft (q : Query) : Prop where
  engine : q.engine = .triples
  stage : q.state.failed = true ∨ q.state.compiled = true ∨
    q.state.prepared = false ∧ q.SlotFree

theorem slotFree_edit {s : QueryState} (free : ∀ t ∈ s.occurrences, ∀ id, t ≠ .slot id)
    {e : QueryEdit} (new : e.SlotFree) : ∀ t ∈ (s.edit e).occurrences, ∀ id, t ≠ .slot id := by
  have reported (severity : Severity) (message : String) :
      (s.report severity message).occurrences = s.occurrences := by
    obtain ⟨_, eq⟩ := s.report_eq severity message
    rw [eq]
    rfl
  intro t mem
  cases e with
  | addPattern p =>
      simp only [QueryState.edit, QueryState.occurrences, List.flatMap_append, List.mem_append,
        List.flatMap_singleton] at mem
      rcases mem with (old | added) | old
      · exact free t (List.mem_append_left _ old)
      · exact new t added
      · exact free t (List.mem_append_right _ old)
  | addConstraint e =>
      simp only [QueryState.edit, QueryState.occurrences, List.flatMap_append, List.mem_append,
        List.flatMap_singleton] at mem
      rcases mem with old | old | added
      · exact free t (List.mem_append_left _ old)
      · exact free t (List.mem_append_right _ old)
      · exact new t added
  | report severity message =>
      rw [QueryState.edit, reported] at mem
      exact free t mem
  | reportError e =>
      rw [QueryState.edit, QueryState.reportError, reported] at mem
      exact free t mem
  | _ => exact free t mem

theorem compile_settles (s : QueryState) :
    s.compile.2.failed = true ∨ s.compile.2.compiled = true := by
  cases h : s.compile.1 with
  | some e => exact .inl (QueryState.failed_of_compile h)
  | none => exact .inr (QueryState.compiled_of_compile h)

theorem prepare_settles {s : QueryState} (new : s.prepared = false) :
    (s.prepareWith QueryState.compile).2.failed = true ∨
      (s.prepareWith QueryState.compile).2.compiled = true := by
  rcases s.prepare_cases with ⟨failed, same⟩ | ⟨-, prepared, -⟩ | ⟨-, -, ⟨_, -, same⟩ | ⟨ok, same⟩⟩
  · rw [same]
    exact .inl failed
  · rw [new] at prepared
    cases prepared
  · rw [same]
    exact compile_settles _
  · rw [same]
    exact .inr (QueryState.compiled_of_compile ok)

theorem Draft.act {q : Query} (h : q.Draft) {a : Act} (free : a.SlotFree) :
    (q.act a).Draft := by
  refine ⟨(q.act_engine a).trans h.engine, ?_⟩
  rcases h.stage with failed | compiled | ⟨new, slotFree⟩
  · -- nothing takes a failure back
    have lawful : q.engine.language.Lawful := by
      rw [h.engine]
      exact Language.patterns_lawful
    obtain ⟨_, -, failed'⟩ := act_recorded lawful a
    exact .inl (failed'.mpr (.inl failed))
  · exact .inr (.inl (act_compiled h.engine compiled a))
  · -- an execution is refused, an edit brings no slot, and compiling settles the query
    cases a with
    | run b n =>
        rcases run_cases h.engine b n with same | ⟨prepared, -⟩
        · rw [show q.act (.run b n) = q from same]
          exact .inr (.inr ⟨new, slotFree⟩)
        · rw [new] at prepared
          cases prepared
    | step a =>
        obtain ⟨e, s⟩ := q
        obtain rfl : e = .triples := h.engine
        cases a with
        | edit e =>
            exact .inr (.inr ⟨(s.edit_sameStage e).prepared.trans new, slotFree_edit slotFree free⟩)
        | compile => exact (compile_settles s).imp_right .inl
        | prepare => exact (prepare_settles new).imp_right .inl

theorem Draft.acts {q : Query} (h : q.Draft) {as : List Act} (free : ∀ a ∈ as, a.SlotFree) :
    (q.acts as).Draft := by
  induction as generalizing q with
  | nil => exact h
  | cons a as ih =>
      obtain ⟨first, rest⟩ := List.forall_mem_cons.mp free
      exact ih (h.act first) rest

theorem draft_of_create {config : Config} {text : Option String} {q : Query}
    (created : Query.create .triples config text = .ok q) : q.Draft := by
  cases created
  exact ⟨rfl, .inr (.inr ⟨rfl, fun t mem => nomatch mem⟩)⟩

/-- A draft that is compiled, by itself or by a preparation, is planned. -/
theorem Draft.planned {q : Query} (h : q.Draft) (new : q.state.compiled = false)
    {way : QueryStep} (compiles : way = .compile ∨ way = .prepare)
    (ok : (q.take way).1 = none) :
    q.SlotFree ∧ q.state.Compilable ∧ (q.take way).2.state.compiled = true ∧
      ∃ a, (q.state.map q.state.resolver.rename).Planned a (q.take way).2.state := by
  have notFailed : q.state.failed = false := by
    cases failed : q.state.failed with
    | false => rfl
    | true =>
        obtain ⟨e, s⟩ := q
        have failed : s.failed = true := failed
        rcases compiles with rfl | rfl
        · simp [Query.take, QueryState.take, QueryState.compile, failed] at ok
        · simp [Query.take, QueryState.take, QueryState.prepareWith, failed] at ok
  obtain ⟨unprepared, free⟩ : q.state.prepared = false ∧ q.SlotFree := by
    rcases h.stage with failed | compiled | draft
    · rw [notFailed] at failed
      cases failed
    · rw [new] at compiled
      cases compiled
    · exact draft
  refine ⟨free, ?_⟩
  rcases compiles with rfl | rfl
  · obtain ⟨stops, made⟩ := QueryState.compile_eq new
    exact ⟨(stops.mp ok).2, QueryState.compiled_of_compile ok, made ok⟩
  · obtain ⟨stops, made⟩ := Fresh.prepare_eq ⟨h.engine, unprepared, new⟩
    obtain ⟨-, -, a, planned⟩ := made ok
    refine ⟨(stops.mp ok).2, ?_, a, planned⟩
    rw [take_of_triples h.engine] at ok ⊢
    exact QueryState.compiled_of_prepare unprepared ok

end Query

/-! ## Joins of compiled queries -/

namespace JoinState

/-- Whatever a step from this state looks up is there: patterns and levels by the numbers of
patterns, and variables by their places. -/
structure InRange {ω : Type} (plan : JoinPlan) (s : JoinState ω) : Prop where
  places : ∀ i ∈ s.done ++ s.todo, i < plan.patterns.length
  levels : ∀ l ∈ s.levels, l.pattern < plan.patterns.length ∧
    ∀ d ∈ l.binders, d.id.index < s.table.size
  slots : ∀ i ∈ s.done ++ s.todo, ∀ p, plan.patterns[i]? = some p → p.Within s.table.size
  constraint : ∀ e, plan.constraint = some e → ∀ t ∈ e.leaves, t.Within s.table.size
  selected : s.table.selectCount ≤ s.table.size

end JoinState

namespace QueryState.Executable

open JoinState

variable {n : Nat} {s : QueryState}

theorem planned (h : s.Executable n) {i : Nat} (mem : i ∈ s.order) :
    i < s.patterns.length ∧ ∀ p, s.patterns[i]? = some p → p.Within s.table.size := by
  have first : i < n := List.mem_range.mp (h.order.mem_iff.mp mem)
  refine ⟨Nat.lt_of_lt_of_le first h.enough, fun p found => h.patterns p ?_⟩
  refine List.mem_of_getElem? (i := i) ?_
  rw [List.getElem?_take_of_lt first, found]

theorem ready (h : s.Executable n) : s.joinPlan.Ready where
  distinct := h.order.nodup_iff.mpr List.nodup_range
  resolved i mem := by
    obtain ⟨inside, within⟩ := h.planned mem
    refine ⟨_, List.getElem?_eq_getElem inside, fun x part => ?_⟩
    exact ((within _ (List.getElem?_eq_getElem inside)).terms x part).isResolved

theorem inRange (h : s.Executable n) {ω : Type} {t : JoinState ω}
    (orderly : Orderly s.joinPlan s.table t) : InRange s.joinPlan t := by
  obtain ⟨size, selectCount⟩ := VariableTable.size_of_reset_eq orderly.declared
  have planned : ∀ i ∈ t.done ++ t.todo, i ∈ s.order := by
    intro i mem
    show i ∈ s.joinPlan.order
    rw [← orderly.order]
    simpa using mem
  refine ⟨fun i mem => (h.planned (planned i mem)).1, fun l mem => ?_, fun i mem p found => ?_,
    fun e joined => ?_, ?_⟩
  · obtain ⟨p, found, binders⟩ := (orderly.serving l mem).binders
    have behind : l.pattern ∈ t.done ++ t.todo := by
      rw [← orderly.places]
      exact List.mem_append_left _ (List.mem_map_of_mem mem)
    obtain ⟨inside, within⟩ := h.planned (planned _ behind)
    refine ⟨inside, fun d bound => ?_⟩
    rw [size]
    exact (within p found).terms _ (binders d bound)
  · rw [size]
    exact (h.planned (planned i mem)).2 p found
  · rw [size]
    exact h.constraint e joined
  · rw [size, selectCount]
    exact h.selected

end QueryState.Executable

namespace Query

theorem execute_ok {q : Query} (engine : q.engine = .triples) {j : Started}
    (h : q.execute.1 = .ok j) : j = started q.state := by
  obtain ⟨e, s⟩ := q
  obtain rfl : e = .triples := engine
  unfold execute at h
  split at h
  · cases h
  · exact (Except.ok.inj h).symm

/-- **What compiling has made of a query stays.**  When a query of the built-in language,
into which no slot was brought, has been compiled with `n` patterns, it can be run with
these in every later state, and nothing of what was compiled is changed.  A join that is
started then fails only by what its source or the flag does, and whatever it looks up is
there. -/
theorem compiled_stays {config : Config} {text : Option String} {q₀ : Query}
    (created : Query.create .triples config text = .ok q₀) {before : List Act}
    (free : ∀ a ∈ before, a.SlotFree) (new : (q₀.acts before).state.compiled = false)
    {way : QueryStep} (compiles : way = .compile ∨ way = .prepare)
    (ok : ((q₀.acts before).take way).1 = none) (after : List Act) :
    let n := (q₀.acts before).state.patterns.length
    let made := ((q₀.acts before).take way).2
    let q := made.acts after
    made.state.patterns.length = n ∧ made.state.Keeps q.state ∧ q.state.Executable n ∧
      ∀ j, q.execute.1 = .ok j → ∀ b : Backend BackendState,
        (∀ i e, JoinState.delivery j.plan b j.join i = some (.error e) →
          e = .aborted ∨ ∃ f, e = .matchFailure f) ∧
        ∀ t, JoinState.Head j.plan b j.join t → JoinState.InRange j.plan t := by
  intro n made q
  have draft := (draft_of_create created).acts free
  obtain ⟨slotFree, able, compiled, a, planned⟩ := draft.planned new compiles ok
  have plain := plain_of_compilable slotFree able
  have count : (QueryState.map (q₀.acts before).state.resolver.rename
      (q₀.acts before).state).patterns.length = n := List.length_map ..
  have executable : made.state.Executable n := count ▸ planned.executable plain
  have engine : made.engine = .triples := draft.engine
  have engine' : q.engine = .triples := (acts_engine after made).trans engine
  have keeps : made.state.Keeps q.state :=
    acts_keeps engine executable ⟨compiled, rfl, List.prefix_rfl, rfl, rfl⟩ after
  have executable' := keeps.executable executable
  refine ⟨?_, keeps, executable', fun j started b => ?_⟩
  · rw [show made.state.patterns = _ from planned.patterns_eq, List.length_map]
    exact count
  · obtain rfl := execute_ok engine' started
    have orderly := JoinState.start_orderly q.state.joinPlan q.state.table
      (⟨q.state.aborted, 0, 0⟩ : BackendState)
    exact ⟨fun i e failed => orderly.delivery_error executable'.ready failed,
      fun t head => executable'.inRange (head.orderly executable'.ready.distinct orderly)⟩

/-! ## A chain, to which a step is added -/

/-- A query of the built-in language in which nothing has been written down. -/
def blank : Query := ⟨.triples, { QueryState.new .default none with initialized := true }⟩

/-- Two steps from `x` over `y` to `z` are written down. -/
def chainActs : List Act :=
  [.step (.edit (.addSelect "x")), .step (.edit (.addPattern (chainStep "x" "y"))),
    .step (.edit (.addPattern (chainStep "y" "z")))]

/-- Another step that is written down after the two were prepared does not disturb them, nor
does an execution whose source fails. -/
theorem chain_stays :
    let made := ((blank.acts chainActs).take .prepare).2
    let q := made.acts [.step (.edit (.addPattern (chainStep "z" "x"))),
      .run (.ofSource JoinState.chainStore.source ⟨some 1, none, none⟩) 1]
    ((blank.acts chainActs).take .prepare).1 = none ∧ made.state.Keeps q.state ∧
      q.state.Executable 2 := by
  intro made q
  have created : Query.create .triples .default none = .ok blank := rfl
  have free : ∀ a ∈ chainActs, a.SlotFree := by
    simp [chainActs, Act.SlotFree, QueryEdit.SlotFree, chainStep, TriplePattern.terms]
  have ok : ((blank.acts chainActs).take .prepare).1 = none := by decide +kernel
  obtain ⟨-, keeps, executable, -⟩ := compiled_stays created free rfl (.inr rfl) ok
    [.step (.edit (.addPattern (chainStep "z" "x"))),
      .run (.ofSource JoinState.chainStore.source ⟨some 1, none, none⟩) 1]
  exact ⟨ok, keeps, executable⟩

end Query

end GraphPattern
