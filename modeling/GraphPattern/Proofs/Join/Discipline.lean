/-
# The levels of a join and their cursors

In a join that names no pattern twice, the open levels are those of the places behind the
search, and each of them has an open cursor of its own; no other cursor is open.
`Orderly` says this of the levels of a state in which the search takes a step, and `Holds`
says of the source what it keeps with just the cursors of the levels open.  There is one
lemma for each move of the machine, and `step_leads` puts them together: the source is asked
for nothing that it may not expect, and a step fails by what the backend refuses or by what
the plan lacks.  `cursor_discipline` is what comes of it for whole runs over a source that
writes down what it is asked.
-/
import GraphPattern.Proofs.Join.CursorLog
import GraphPattern.Proofs.Join.Refinement
import GraphPattern.Proofs.Join.World

namespace GraphPattern

/-! ## What a plan may lack -/

/-- A position that is ready for a join: a term or a slot. -/
def PatternTerm.IsResolved : PatternTerm → Prop
  | .term _ | .slot _ => True
  | _ => False

theorem PatternTerm.Within.isResolved {x : PatternTerm} {n : Nat} (h : x.Within n) :
    x.IsResolved := by
  cases x with
  | term _ | slot _ => trivial
  | reference _ | qname _ | named _ => exact h.elim

theorem TriplePattern.Within.terms {p : TriplePattern} {n : Nat} (h : p.Within n) :
    ∀ x ∈ p.terms, x.Within n := by
  unfold TriplePattern.terms
  simp only [List.forall_mem_cons]
  exact ⟨h .subject, h .predicate, h .object, nofun⟩

/-- What may fail in a join because of its plan: a name that is not resolved, or a number
without a pattern. -/
inductive JoinPlan.Faulty (plan : JoinPlan) : QueryError → Prop where
  | unresolved {i : Nat} {p : TriplePattern} {x : PatternTerm} (planned : i ∈ plan.order)
      (found : plan.patterns[i]? = some p) (part : x ∈ p.terms) (name : ¬ x.IsResolved) :
      plan.Faulty .notReady
  | missing {i : Nat} (planned : i ∈ plan.order) (beyond : plan.patterns[i]? = none) :
      plan.Faulty (.missingPattern i)

/-- A plan that lacks nothing: it names some of its patterns, each once, and no name is
left in them. -/
structure JoinPlan.Ready (plan : JoinPlan) : Prop where
  distinct : plan.order.Nodup
  resolved : ∀ i ∈ plan.order, ∃ p, plan.patterns[i]? = some p ∧ ∀ x ∈ p.terms, x.IsResolved

theorem JoinPlan.Ready.not_faulty {plan : JoinPlan} (ready : plan.Ready) (e : QueryError) :
    ¬ plan.Faulty e := by
  intro faulty
  cases faulty with
  | unresolved planned found part name =>
      obtain ⟨q, found', resolved⟩ := ready.resolved _ planned
      rw [found] at found'
      cases found'
      exact name (resolved _ part)
  | missing planned beyond =>
      obtain ⟨q, found, -⟩ := ready.resolved _ planned
      rw [beyond] at found
      cases found

theorem JoinPlan.Proper.ready {plan : JoinPlan} {n : Nat} (proper : plan.Proper n) :
    plan.Ready where
  distinct := proper.distinct
  resolved i planned := by
    have within := proper.within _ (List.getElem_mem (proper.inRange i planned))
    exact ⟨_, List.getElem?_eq_getElem (proper.inRange i planned),
      fun x part => (within.terms x part).isResolved⟩

/-! ## Views -/

section View

variable {table : VariableTable} {p : TriplePattern} {x : PatternTerm} {v : PatternView}

theorem PatternTerm.slotUnder_error {e : QueryError} (h : x.slotUnder table = .error e) :
    e = .notReady ∧ ¬ x.IsResolved := by
  cases x with
  | term t => cases h
  | slot id =>
      unfold slotUnder at h
      dsimp only at h
      split at h <;> cases h
  | reference _ | qname _ | named _ =>
      cases h
      exact ⟨rfl, id⟩

theorem PatternTerm.slotUnder_opened {s : Slot} {id : VarId} (h : x.slotUnder table = .ok s)
    (opened : s.opened? = some id) : x = .slot id := by
  cases x with
  | term t =>
      cases h
      cases opened
  | slot other =>
      unfold slotUnder at h
      dsimp only at h
      split at h
      · cases h
        cases opened
      · cases h
        rw [Option.some.inj opened]
  | reference _ | qname _ | named _ => cases h

theorem TriplePattern.viewUnder_ok (h : p.viewUnder table = .ok v) :
    p.subject.slotUnder table = .ok v.subject ∧ p.predicate.slotUnder table = .ok v.predicate ∧
      p.object.slotUnder table = .ok v.object := by
  unfold viewUnder at h
  rcases subject : p.subject.slotUnder table with e | s
  · rw [subject] at h
    cases h
  rcases predicate : p.predicate.slotUnder table with e | q
  · rw [subject, predicate] at h
    cases h
  rcases object : p.object.slotUnder table with e | o
  · rw [subject, predicate, object] at h
    cases h
  rw [subject, predicate, object] at h
  cases h
  exact ⟨rfl, rfl, rfl⟩

theorem TriplePattern.viewUnder_error {e : QueryError} (h : p.viewUnder table = .error e) :
    e = .notReady ∧ ∃ x ∈ p.terms, ¬ x.IsResolved := by
  have failed : ∀ x ∈ p.terms, x.slotUnder table = .error e →
      e = .notReady ∧ ∃ x ∈ p.terms, ¬ x.IsResolved := fun x part h =>
    ⟨(PatternTerm.slotUnder_error h).1, x, part, (PatternTerm.slotUnder_error h).2⟩
  unfold viewUnder at h
  rcases subject : p.subject.slotUnder table with e' | s
  · rw [subject] at h
    cases h
    exact failed p.subject (by simp [terms]) subject
  rcases predicate : p.predicate.slotUnder table with e' | q
  · rw [subject, predicate] at h
    cases h
    exact failed p.predicate (by simp [terms]) predicate
  rcases object : p.object.slotUnder table with e' | o
  · rw [subject, predicate, object] at h
    cases h
    exact failed p.object (by simp [terms]) object
  rw [subject, predicate, object] at h
  cases h

theorem TriplePattern.slot_of_binder (h : p.viewUnder table = .ok v) {d : Binder}
    (mem : d ∈ v.binders) : .slot d.id ∈ p.terms := by
  obtain ⟨subject, predicate, object⟩ := viewUnder_ok h
  obtain ⟨entry, listed, mapped⟩ := List.mem_filterMap.mp mem
  obtain ⟨id, opened, rfl⟩ := Option.map_eq_some_iff.mp mapped
  simp only [PatternView.slots, List.mem_cons, List.not_mem_nil, or_false] at listed
  rcases listed with rfl | rfl | rfl
  · simp [terms, PatternTerm.slotUnder_opened subject opened]
  · simp [terms, PatternTerm.slotUnder_opened predicate opened]
  · simp [terms, PatternTerm.slotUnder_opened object opened]

end View

/-! ## The invariant -/

/-- A level is one of a plan: its cursor can be moved, and what it binds are variables of
its pattern. -/
structure Level.Serves (plan : JoinPlan) (l : Level) : Prop where
  live : l.cursor.closed = false
  binders : ∃ p, plan.patterns[l.pattern]? = some p ∧ ∀ d ∈ l.binders, .slot d.id ∈ p.terms

namespace JoinState

open JoinEvent (Tracks IsOpen Balanced)
open Backend (Custody)

variable {ω : Type}

def numbers (levels : List Level) : List Nat := levels.filterMap (·.number)

/-- The source keeps what it does with just the cursors of the levels open. -/
def Holds (K : Custody ω) (s : JoinState ω) : Prop := K s.world (numbers s.levels) s.opens

/-- The variables of a join are those of a table. -/
structure Declares (table : VariableTable) (s : JoinState ω) : Prop where
  declared : s.table.reset = table.reset

/-- The search is behind the places `done`: just their levels are open, each with a cursor
from the source. -/
structure Orderly (plan : JoinPlan) (table : VariableTable) (s : JoinState ω) : Prop
    extends Declares table s where
  places : s.levels.map (·.pattern) = s.done
  order : s.done.reverse ++ s.todo = plan.order
  serving : ∀ l ∈ s.levels, l.Serves plan
  numbered : ∀ l ∈ s.levels, l.number ≠ none

/-- A level is about to be looked at, between the places `behind` and `todo`, with these
other levels open. -/
structure Facing (K : Custody ω) (plan : JoinPlan) (table : VariableTable) (s : JoinState ω)
    (l : Level) (levels : List Level) (behind todo : List Nat) : Prop where
  others : s.others l.pattern = levels
  places : levels.map (·.pattern) = behind
  order : behind.reverse ++ l.pattern :: todo = plan.order
  serving : ∀ m ∈ levels, m.Serves plan
  numbered : ∀ m ∈ levels, m.number ≠ none
  serves : l.Serves plan
  empty : l.number = none → l.cursor.current = none
  holds : K s.world (numbers (l :: levels)) s.opens
  declared : s.table.reset = table.reset

def Leads (K : Custody ω) (plan : JoinPlan) (table : VariableTable) (refused : QueryError → Prop) :
    StepResult × JoinState ω → Prop
  | (.running, s) | (.solution _, s) => Orderly plan table s ∧ s.Holds K
  | (.exhausted, s) => Declares table s ∧ s.Holds K
  | (.failed e, s) => (Declares table s ∧ s.Holds K) ∧ refused e

variable {plan : JoinPlan} {table : VariableTable} {b : Backend ω} {K : Custody ω}
  {s t : JoinState ω} {refused : QueryError → Prop}

theorem start_orderly (plan : JoinPlan) (table : VariableTable) (w : ω) :
    Orderly plan table (start plan table w) where
  declared := table.reset_reset
  places := rfl
  order := rfl
  serving := nofun
  numbered := nofun

/-! ## Reading and closing -/

theorem tell_holds {l : Level} {levels : List Level} {call : Nat → ω → ω}
    (kept : ∀ {w reading opens k}, K w reading opens → k ∈ reading → K (call k w) reading opens)
    (holds : K s.world (numbers (l :: levels)) s.opens) :
    K (s.tell call l.number).world (numbers (l :: levels)) s.opens := by
  cases number : l.number with
  | none => exact holds
  | some k => exact kept holds (List.mem_filterMap.mpr ⟨l, List.mem_cons_self, number⟩)

theorem closeLevel_holds (keeps : b.Keeps K) {l : Level} {levels : List Level}
    (holds : K s.world (numbers (l :: levels)) s.opens) :
    K (s.closeLevel b l).world (numbers levels) (s.closeLevel b l).opens := by
  rw [closeLevel_opens]
  unfold numbers at holds
  unfold closeLevel
  cases number : l.number with
  | none =>
      rw [List.filterMap_cons_none number] at holds
      exact holds
  | some k =>
      rw [List.filterMap_cons_some number] at holds
      exact keeps.closes holds rfl

theorem closeLevel_variables (b : Backend ω) (s : JoinState ω) (l : Level) :
    (s.closeLevel b l).table.reset = s.table.reset := by
  rw [closeLevel_table]
  exact VariableTable.reset_release _ _

theorem foldl_closeLevel_holds (keeps : b.Keeps K) {levels : List Level}
    (holds : K s.world (numbers levels) s.opens) :
    K (levels.foldl (closeLevel b) s).world [] (levels.foldl (closeLevel b) s).opens := by
  induction levels generalizing s with
  | nil => exact holds
  | cons l levels ih => exact ih (closeLevel_holds keeps holds)

theorem foldl_closeLevel_variables (b : Backend ω) (levels : List Level) (s : JoinState ω) :
    (levels.foldl (closeLevel b) s).table.reset = s.table.reset := by
  induction levels generalizing s with
  | nil => rfl
  | cons l levels ih => exact (ih _).trans (s.closeLevel_variables b l)

/-- A join that is ended has no open cursor, whatever levels were open. -/
theorem Holds.finish (keeps : b.Keeps K) (h : s.Holds K) : (s.finish b).Holds K := by
  have same : (numbers s.levels).Perm (numbers (inPatternOrder s.levels)) :=
    (List.mergeSort_perm s.levels _).symm.filterMap _
  have closed := foldl_closeLevel_holds (s := { s with levels := [] }) keeps (keeps.perm h same)
  unfold Holds
  rw [finish_levels]
  exact closed

theorem Declares.finish (h : Declares table s) (b : Backend ω) : Declares table (s.finish b) where
  declared := by
    refine (VariableTable.reset_reset _).trans ?_
    rw [foldl_closeLevel_variables]
    exact h.declared

/-! ## Looking at a candidate -/

theorem retreat_leads (h : Orderly plan table s) (holds : s.Holds K) :
    Leads K plan table refused s.retreat := by
  unfold retreat
  split
  · exact ⟨h.toDeclares, holds⟩
  · exact ⟨{ h with }, holds⟩

section Examine

variable {l : Level} {levels : List Level} {behind todo : List Nat}

theorem leave_leads (keeps : b.Keeps K) (distinct : plan.order.Nodup)
    (h : Facing K plan table s l levels behind todo) :
    Leads K plan table refused (s.leave b l behind todo) := by
  unfold leave
  dsimp only
  rw [countRound_new (not_mem_behind distinct h.order), h.others]
  dsimp only
  refine retreat_leads ⟨⟨?_⟩, ?_, ?_, ?_, ?_⟩ ?_
  · rw [closeLevel_variables]
    exact h.declared
  · rw [closeLevel_levels, closeLevel_done]
    exact h.places
  · rw [closeLevel_done, closeLevel_todo]
    exact h.order
  · rw [closeLevel_levels]
    exact h.serving
  · rw [closeLevel_levels]
    exact h.numbered
  · unfold Holds
    rw [closeLevel_levels]
    exact closeLevel_holds keeps h.holds

theorem Facing.read (keeps : b.Keeps K) (h : Facing K plan table s l levels behind todo) :
    Facing K plan table (s.tell b.reads l.number) l levels behind todo :=
  { h with
    others := by
      unfold JoinState.others
      rw [tell_levels]
      exact h.others
    holds := by
      rw [tell_opens]
      exact tell_holds keeps.reads h.holds
    declared := by
      rw [tell_table]
      exact h.declared }

theorem Facing.kept (h : Facing K plan table s l levels behind todo)
    (candidate : l.cursor.current ≠ none) {phase : Phase} {values : VariableTable}
    (declared : values.reset = s.table.reset) :
    Orderly plan table { s with
      phase := phase
      table := values
      levels := l :: levels
      done := l.pattern :: behind
      todo := todo } where
  declared := declared.trans h.declared
  places := congrArg (l.pattern :: ·) h.places
  order := by
    rw [List.reverse_cons, List.append_assoc]
    exact h.order
  serving := List.forall_mem_cons.mpr ⟨h.serves, h.serving⟩
  numbered := List.forall_mem_cons.mpr ⟨fun none => candidate (h.empty none), h.numbered⟩

/-- **A level that is looked at is kept or closed.** -/
theorem examine_leads (keeps : b.Keeps K) (distinct : plan.order.Nodup)
    (h : Facing K plan table s l levels behind todo) :
    Leads K plan table refused (s.examine b l behind todo) := by
  have read := h.read keeps
  unfold examine
  dsimp only
  cases current : l.cursor.current with
  | none => exact leave_leads keeps distinct read
  | some t =>
      have candidate : l.cursor.current ≠ none := by
        rw [current]
        exact nofun
      rw [read.others]
      dsimp only
      split
      · exact ⟨read.kept candidate (VariableTable.reset_unify t l.binders _), read.holds⟩
      · refine ⟨read.kept candidate ?_, read.holds⟩
        exact (VariableTable.reset_release _ _).trans (VariableTable.reset_unify t l.binders _)

end Examine

/-! ## Opening a level and moving it on -/

/-- A level that is opened gets a new cursor, or one without candidates if nothing can
match. -/
theorem openLevel_leads (keeps : b.Keeps K) (distinct : plan.order.Nodup) {i : Nat}
    {todo : List Nat} (h : Orderly plan table s) (holds : s.Holds K) (next : s.todo = i :: todo)
    (refuses : ∀ sel e, (b.candidates sel s.world).1 = .error e → refused (.matchFailure e))
    (lacks : ∀ e, plan.Faulty e → refused e) :
    Leads K plan table refused (openLevel plan b s i s.done todo) := by
  have order : s.done.reverse ++ i :: todo = plan.order := by
    rw [← next]
    exact h.order
  have planned : i ∈ plan.order := by
    rw [← order]
    exact List.mem_append_right _ List.mem_cons_self
  -- the pattern is planned once, so it has no level yet
  have closed : i ∉ s.levels.map (·.pattern) := by
    rw [h.places]
    exact not_mem_behind distinct order
  have kept : s.levels.filter (fun l => l.pattern ≠ i) = s.levels := others_eq_self closed
  unfold openLevel
  cases found : plan.patterns[i]? with
  | none => exact ⟨⟨h.toDeclares, holds⟩, lacks _ (.missing planned found)⟩
  | some p =>
      dsimp only
      cases view : p.viewUnder s.table with
      | error e =>
          obtain ⟨rfl, x, part, name⟩ := TriplePattern.viewUnder_error view
          exact ⟨⟨h.toDeclares, holds⟩, lacks _ (.unresolved planned found part name)⟩
      | ok v =>
          have binders : ∃ p, plan.patterns[i]? = some p ∧ ∀ d ∈ v.binders, .slot d.id ∈ p.terms :=
            ⟨p, found, fun d mem => TriplePattern.slot_of_binder view mem⟩
          dsimp only
          cases v.selector? with
          | none =>
              exact examine_leads keeps distinct ⟨kept, h.places, order, h.serving, h.numbered,
                ⟨rfl, binders⟩, fun _ => rfl, holds, h.declared⟩
          | some sel =>
              dsimp only
              unfold openCursor
              dsimp only
              cases answer : (b.candidates sel s.world).1 with
              | error e =>
                  exact ⟨⟨⟨h.declared⟩, keeps.refused sel e holds answer⟩, refuses sel e answer⟩
              | ok found =>
                  exact examine_leads keeps distinct ⟨kept, h.places, order, h.serving, h.numbered,
                    ⟨rfl, binders⟩, nofun, keeps.opened sel found holds answer, h.declared⟩

theorem advanceLevel_leads (keeps : b.Keeps K) (distinct : plan.order.Nodup) {l : Level}
    {levels : List Level} (h : Orderly plan table s) (holds : s.Holds K)
    (top : s.levels = l :: levels)
    (refuses : ∀ k e, (b.advanceFault k s.world).1 = some e → refused (.matchFailure e)) :
    Leads K plan table refused (advanceLevel b s l (levels.map (·.pattern))) := by
  have places : s.done = l.pattern :: levels.map (·.pattern) := by
    rw [← h.places, top]
    rfl
  have order : (levels.map (·.pattern)).reverse ++ l.pattern :: s.todo = plan.order := by
    rw [← h.order, places, List.reverse_cons, List.append_assoc]
    rfl
  have kept : s.others l.pattern = levels := others_of_top top (not_mem_behind distinct order)
  obtain ⟨serves, serving⟩ := List.forall_mem_cons.mp (top ▸ h.serving)
  obtain ⟨numbered, numbered'⟩ := List.forall_mem_cons.mp (top ▸ h.numbered)
  have moved : l.cursor.advance = .ok { l.cursor with rest := l.cursor.rest.drop 1 } := by
    simp [Cursor.advance, serves.live]
  -- a level without a cursor from the source was closed when it was looked at
  obtain ⟨k, number⟩ := Option.ne_none_iff_exists'.mp numbered
  have holds' : K (b.advanceFault k s.world).2 (numbers (l :: levels)) s.opens :=
    keeps.moves (top ▸ holds) (List.mem_filterMap.mpr ⟨l, List.mem_cons_self, number⟩)
  have declared := (VariableTable.reset_release l.binders s.table).trans h.declared
  unfold advanceLevel advanceCursor
  rw [number]
  dsimp only
  cases fault : (b.advanceFault k (s.release l).world).1 with
  | some e => exact ⟨⟨⟨declared⟩, top ▸ holds'⟩, refuses k e fault⟩
  | none =>
      dsimp only
      rw [moved, ← number]
      exact examine_leads keeps distinct ⟨kept, rfl, order, serving, numbered',
        ⟨serves.live, serves.binders⟩, fun none => absurd none numbered, holds', declared⟩

theorem enterLevel_leads (keeps : b.Keeps K) (distinct : plan.order.Nodup) {i : Nat}
    {todo : List Nat} (h : Orderly plan table s) (holds : s.Holds K) (next : s.todo = i :: todo)
    (refuses : ∀ sel e, (b.candidates sel s.world).1 = .error e → refused (.matchFailure e))
    (lacks : ∀ e, plan.Faulty e → refused e) :
    Leads K plan table refused (enterLevel plan b s i todo) := by
  have closed : i ∉ s.levels.map (·.pattern) := by
    rw [h.places]
    exact not_mem_behind distinct (next ▸ h.order)
  unfold enterLevel
  rw [level?_eq_none closed]
  exact openLevel_leads keeps distinct h holds next refuses lacks

theorem resumeLevel_leads (keeps : b.Keeps K) (distinct : plan.order.Nodup) {i : Nat}
    {behind : List Nat} (h : Orderly plan table s) (holds : s.Holds K)
    (back : s.done = i :: behind)
    (refuses : ∀ k e, (b.advanceFault k s.world).1 = some e → refused (.matchFailure e)) :
    Leads K plan table refused (resumeLevel plan b s i behind) := by
  obtain ⟨l, levels, top, rfl, rfl⟩ := List.map_eq_cons_iff.mp (h.places.trans back)
  unfold resumeLevel
  rw [level?_top top]
  exact advanceLevel_leads keeps distinct h holds top refuses

/-! ## One step -/

theorem complete_leads (plan : JoinPlan) (h : Orderly plan table s) (holds : s.Holds K) :
    Leads K plan table refused (complete plan s) := by
  obtain ⟨accepted, cache, judged⟩ := judge_cases plan s
  unfold complete
  rw [judged]
  cases accepted with
  | true => exact ⟨{ h with }, holds⟩
  | false => exact retreat_leads { h with } holds

/-- **A step leaves just the levels behind the search open** and asks the source for nothing
that it may not expect; it fails only by what the backend refuses or the plan lacks. -/
theorem step_leads (keeps : b.Keeps K) (distinct : plan.order.Nodup) (h : Orderly plan table s)
    (holds : s.Holds K) :
    Leads K plan table (fun e => b.Refuses s.world e ∨ plan.Faulty e) (step plan b s) := by
  unfold step
  split
  · exact ⟨h.toDeclares, holds⟩
  · have holds' : K (b.stops s.world).2 (numbers s.levels) s.opens := keeps.stops holds
    dsimp only
    split
    · next stops => exact ⟨⟨{ h.toDeclares with }, holds'⟩, .inl (.stopped stops)⟩
    · have h' : Orderly plan table { s with world := (b.stops s.world).2 } := { h with }
      split
      · next back =>
          exact resumeLevel_leads keeps distinct h' holds' back
            fun k e fault => .inl (.unmoved k e fault)
      · next next =>
          exact enterLevel_leads keeps distinct h' holds' next
            (fun sel e failed => .inl (.unopened sel e failed)) fun e lacks => .inr lacks
      · exact complete_leads plan h' holds'
      · exact ⟨h'.toDeclares, holds'⟩

/-! ## Runs -/

/-- At every head of a run just the levels behind the search are open, with their cursors. -/
theorem Head.leads (keeps : b.Keeps K) (distinct : plan.order.Nodup) (h : Orderly plan table s)
    (holds : s.Holds K) (head : Head plan b s t) : Orderly plan table t ∧ t.Holds K := by
  induction head with
  | start => exact ⟨h, holds⟩
  | later _ stepped goes ih =>
      have leads := step_leads keeps distinct ih.1 ih.2
      rw [stepped] at leads
      rcases goes with rfl | ⟨row, rfl⟩
      · exact leads
      · exact leads

theorem Head.orderly (distinct : plan.order.Nodup) (h : Orderly plan table s)
    (head : Head plan b s t) : Orderly plan table t :=
  (head.leads b.keeps_any distinct h trivial).1

/-- With a plan that lacks nothing, an error of a run is one that the backend has caused. -/
theorem Orderly.delivery_error (ready : plan.Ready) (h : Orderly plan table s) {n : Nat}
    {e : QueryError} (failed : delivery plan b s n = some (.error e)) :
    e = .aborted ∨ ∃ f, e = .matchFailure f := by
  obtain ⟨t, u, head, stepped⟩ := delivery_failed failed
  have leads := step_leads b.keeps_any ready.distinct (head.orderly ready.distinct h) trivial
  rw [stepped] at leads
  rcases leads.2 with refused | faulty
  · cases refused with
    | stopped _ => exact .inl rfl
    | unopened _ f _ | unmoved _ f _ => exact .inr ⟨f, rfl⟩
  · exact absurd faulty (ready.not_faulty e)

theorem next_leads (keeps : b.Keeps K) (distinct : plan.order.Nodup) (h : Orderly plan table s)
    (holds : s.Holds K) : Declares table (next plan b s).2 ∧ (next plan b s).2.Holds K := by
  obtain ⟨t, head, pulled⟩ := next_cases plan b s
  obtain ⟨orderly, held⟩ := head.leads keeps distinct h holds
  have leads := step_leads keeps distinct orderly held
  generalize JoinState.next plan b s = r at pulled
  cases pulled with
  | row stepped =>
      rw [stepped] at leads
      exact ⟨leads.1.toDeclares, leads.2⟩
  | none stepped =>
      rw [stepped] at leads
      exact ⟨leads.1.finish b, leads.2.finish keeps⟩
  | error stepped =>
      rw [stepped] at leads
      exact ⟨leads.1.1.finish b, leads.1.2.finish keeps⟩

theorem pulls_leads (keeps : b.Keeps K) (distinct : plan.order.Nodup) (h : Orderly plan table s)
    (holds : s.Holds K) (n : Nat) :
    Declares table (pulls plan b n s) ∧ (pulls plan b n s).Holds K := by
  induction n with
  | zero => exact ⟨h.toDeclares, holds⟩
  | succ n ih =>
      rw [pulls_succ]
      rcases head_or_over plan b s n with head | ended
      · obtain ⟨orderly, held⟩ := head.leads keeps distinct h holds
        exact next_leads keeps distinct orderly held
      · rwa [ended.next]

theorem Orderly.pulls (distinct : plan.order.Nodup) (h : Orderly plan table s) (n : Nat) :
    Declares table (pulls plan b n s) :=
  (pulls_leads b.keeps_any distinct h trivial n).1

/-! ## What a source sees -/

/-- What a source with a log keeps: only the cursors of the levels are open, and none was
misused. -/
def Logs (s : JoinState (Logged ω)) : Prop :=
  s.Holds fun w reading opens => Tracks w.events reading opens ∧ w.opens = opens

theorem start_logs (plan : JoinPlan) (table : VariableTable) (w : ω) :
    (start plan table (.start w)).Logs := ⟨.empty, rfl⟩

theorem Logs.none_open {s : JoinState (Logged ω)} (h : s.Logs) (ended : s.Over) :
    Tracks s.world.events [] s.opens := by
  have tracks := h.1
  rwa [ended.levels] at tracks

/-- **The cursors of a run**, as a source sees them that writes down what it is asked.  Whenever
a join is ended, every cursor that was opened is closed once, none that was refused is closed,
and none is used after it was closed.  At every head the open cursors are those of the levels of
a first part of the plan, one for each pattern.  When a pull has given no row, no cursor is open
and no variable has a value.  All this is the run over the source as it is, which goes on in the
same way without a log. -/
theorem cursor_discipline (distinct : plan.order.Nodup) (table : VariableTable)
    (b : Backend ω) (w : ω) :
    let s := start plan table (.start w)
    (∀ n, Balanced ((pulls plan b.logging n s).finish b.logging).world.events) ∧
      (∀ t, Head plan b.logging s t →
        (t.levels.map (·.pattern)).reverse <+: plan.order ∧
          (t.levels.map (·.pattern)).Nodup ∧ (numbers t.levels).Nodup ∧
          (∀ l ∈ t.levels, l.number ≠ none) ∧
          ∀ k, IsOpen t.world.events k ↔ ∃ l ∈ t.levels, l.number = some k) ∧
      (∀ n d t, next plan b.logging (pulls plan b.logging n s) = (d, t) →
        (∀ row, d ≠ some (.ok row)) →
          (∀ k, ¬ IsOpen t.world.events k) ∧ ∀ v ∈ t.table.entries, v.value = none) ∧
      (∀ t, Head plan b (start plan table w) t →
        ∃ u, Head plan b.logging s u ∧ u.inWorld Logged.world = t) ∧
      ∀ n, delivery plan b.logging s n = delivery plan b (start plan table w) n ∧
        ((pulls plan b.logging n s).finish b.logging).inWorld Logged.world =
          (pulls plan b n (start plan table w)).finish b := by
  intro s
  have started : Orderly plan table s := start_orderly plan table _
  have logs : s.Logs := start_logs plan table w
  have keeps := b.logging_keeps
  have like := b.logging_like
  refine ⟨fun n => ?_, fun t head => ?_, fun n d t pulled noRow => ?_, fun t head => ?_,
    fun n => ⟨delivery_inWorld like s n, ?_⟩⟩
  · have ended := (pulls_leads keeps distinct started logs n).2.finish keeps
    exact (Logs.none_open ended (finish_over _ _)).balanced
  · obtain ⟨orderly, tracks, -⟩ := head.leads keeps distinct started logs
    have order : (t.levels.map (·.pattern)).reverse ++ t.todo = plan.order := by
      rw [orderly.places]
      exact orderly.order
    refine ⟨⟨t.todo, order⟩, ?_, tracks.distinct, orderly.numbered, fun k => ?_⟩
    · rw [← order] at distinct
      exact (List.reverse_perm _).nodup_iff.mp (List.nodup_append.mp distinct).1
    · rw [tracks.isOpen_iff, numbers, List.mem_filterMap]
  · have ended := next_over pulled noRow
    have closed : t.Logs := by
      have closed := (pulls_leads keeps distinct started logs (n + 1)).2
      rwa [pulls_succ, pulled] at closed
    refine ⟨fun k isOpen => ?_, fun v mem => VariableTable.value_of_reset_eq ended.table mem⟩
    cases ((closed.none_open ended).isOpen_iff k).mp isOpen
  · exact Head.of_inWorld like head
  · rw [finish_inWorld like.toTold, pulls_inWorld like]
    rfl

/-- Two steps along a chain, from a source whose cursors cannot be moved. -/
theorem chain_cursors :
    let b := Backend.ofSource chainStore.source ⟨none, some 0, none⟩
    let s := start chainPlan chainTable (.start ⟨false, 0, 0⟩)
    chainPlan.order.Nodup ∧
      (∀ n, Balanced ((pulls chainPlan b.logging n s).finish b.logging).world.events) ∧
      ∀ t, Head chainPlan b.logging s t → (t.levels.map (·.pattern)).reverse <+: [1, 0] := by
  have distinct : chainPlan.order.Nodup := by decide
  obtain ⟨balanced, heads, -⟩ := cursor_discipline distinct chainTable
    (Backend.ofSource chainStore.source ⟨none, some 0, none⟩) ⟨false, 0, 0⟩
  exact ⟨distinct, balanced, fun t head => (heads t head).1⟩

end JoinState

end GraphPattern
