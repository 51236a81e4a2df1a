/-
# Faults and the flag cut a run short

A backend may refuse to open or to move a cursor at any request, and the flag that stops
a join may be raised and lowered between any two steps.  Up to the step that is refused,
a join does what it does in `Backend.steady`, where nothing is refused: apart from the
world around it (`core`), its states are the same.  `step_follows` says this of one step,
`next_core` of a pull and `drain_core` of a whole run.  `disturbance_cuts` puts
together what comes of it for the rows, the error and the requests of a disturbed run.
-/
import GraphPattern.Proofs.Join.Discipline
import GraphPattern.Result.Table

namespace GraphPattern

/-- A backend that refuses nothing: it has these candidates for each selector. -/
def Backend.steady (lists : Candidates) : Backend Unit where
  stops _ := (false, ())
  candidates p _ := (.ok (lists p), ())
  reads _ _ := ()
  advanceFault _ _ := (none, ())
  closes _ _ _ := ()

/-- The candidates of a source depend on the selector only; requests may be refused at any
time. -/
def Backend.Answers {ω : Type} (b : Backend ω) (lists : Candidates) : Prop :=
  ∀ p w found, (b.candidates p w).1 = .ok found → found = lists p

def Backend.closeAll {ω : Type} (b : Backend ω) (cursors : List (Nat × Cursor)) (w : ω) : ω :=
  cursors.foldl (fun w c => b.closes c.1 c.2 w) w

namespace JoinState

variable {ω : Type} {plan : JoinPlan} {table : VariableTable} {lists : Candidates}
  {b : Backend ω} {s t u : JoinState ω}

/-! ## A join apart from its world -/

/-- A join apart from the world around it. -/
def core (s : JoinState ω) : JoinState Unit := s.inWorld fun _ => ()

theorem examine_core (s : JoinState ω) (l : Level) (behind todo : List Nat) :
    (s.examine b l behind todo).map id core = s.core.examine (.steady lists) l behind todo :=
  examine_inWorld ⟨fun _ _ => rfl, fun _ _ _ => rfl⟩ s l behind todo

theorem finish_core (s : JoinState ω) : (s.finish b).core = s.core.finish (.steady lists) :=
  finish_inWorld ⟨fun _ _ => rfl, fun _ _ _ => rfl⟩ s

/-! ## A step that is cut short -/

/-- A step is cut short at `t`: the search sees the flag, or one request is refused.  What
the join reports is that, and nothing else is asked: the world is what that has made of it. -/
inductive Cut (b : Backend ω) (t : JoinState ω) : QueryError → JoinState ω → Prop where
  | stopped (raised : (b.stops t.world).1 = true) :
      Cut b t .aborted { t with world := (b.stops t.world).2 }
  | unopened {u : JoinState ω} (sel : TripleSelector) (f : MatchError)
      (answer : (b.candidates sel (b.stops t.world).2).1 = .error f)
      (asked : u.world = (b.candidates sel (b.stops t.world).2).2) : Cut b t (.matchFailure f) u
  | unmoved {u : JoinState ω} (k : Nat) (f : MatchError)
      (answer : (b.advanceFault k (b.stops t.world).2).1 = some f)
      (asked : u.world = (b.advanceFault k (b.stops t.world).2).2) : Cut b t (.matchFailure f) u

/-- A step is cut short, or it is the step in steady surroundings. -/
inductive Follows (cut : QueryError → JoinState ω → Prop) :
    StepResult × JoinState ω → StepResult × JoinState Unit → Prop where
  | cut {e : QueryError} {u : JoinState ω} {r' : StepResult × JoinState Unit} (h : cut e u) :
      Follows cut (.failed e, u) r'
  | same {r : StepResult × JoinState ω} {r' : StepResult × JoinState Unit}
      (h : r.map id core = r') : Follows cut r r'

section Follows

variable {cut : QueryError → JoinState ω → Prop}

theorem openLevel_follows (answers : b.Answers lists) (i : Nat) (behind todo : List Nat)
    (refuses : ∀ sel f u, (b.candidates sel s.world).1 = .error f →
      u.world = (b.candidates sel s.world).2 → cut (.matchFailure f) u) :
    Follows cut (openLevel plan b s i behind todo)
      (openLevel plan (.steady lists) s.core i behind todo) := by
  unfold openLevel
  cases plan.patterns[i]? with
  | none => exact .same rfl
  | some p =>
      dsimp only [core, inWorld]
      cases p.viewUnder s.table with
      | error e => exact .same rfl
      | ok v =>
          dsimp only
          cases v.selector? with
          | none => exact .same (examine_core s _ behind todo)
          | some sel =>
              dsimp only [openCursor, Backend.steady]
              cases answer : (b.candidates sel s.world).1 with
              | error f => exact .cut (refuses sel f _ answer rfl)
              | ok triples =>
                  rw [answers sel s.world triples answer]
                  exact .same (examine_core _ _ behind todo)

theorem advanceLevel_follows (l : Level) (behind : List Nat)
    (refuses : ∀ k f u, (b.advanceFault k s.world).1 = some f →
      u.world = (b.advanceFault k s.world).2 → cut (.matchFailure f) u) :
    Follows cut (advanceLevel b s l behind)
      (advanceLevel (.steady lists) s.core l behind) := by
  unfold advanceLevel advanceCursor
  cases l.number with
  | none =>
      dsimp only
      cases l.cursor.advance with
      | error e => exact .same rfl
      | ok cursor => exact .same (examine_core _ _ behind _)
  | some k =>
      dsimp only [Backend.steady]
      cases fault : (b.advanceFault k (s.release l).world).1 with
      | some f => exact .cut (refuses k f _ fault rfl)
      | none =>
          dsimp only
          cases l.cursor.advance with
          | error e => exact .same rfl
          | ok cursor => exact .same (examine_core _ _ behind _)

theorem enterLevel_follows (answers : b.Answers lists) (i : Nat) (todo : List Nat)
    (refuses : ∀ sel f u, (b.candidates sel s.world).1 = .error f →
      u.world = (b.candidates sel s.world).2 → cut (.matchFailure f) u) :
    Follows cut (enterLevel plan b s i todo) (enterLevel plan (.steady lists) s.core i todo) := by
  have same : s.core.level? i = s.level? i := rfl
  unfold enterLevel
  rw [same]
  cases s.level? i with
  | none => exact openLevel_follows answers i s.done todo refuses
  | some l => exact .same (examine_core s l s.done todo)

theorem resumeLevel_follows (answers : b.Answers lists) (i : Nat) (behind : List Nat)
    (refusesOpen : ∀ sel f u, (b.candidates sel s.world).1 = .error f →
      u.world = (b.candidates sel s.world).2 → cut (.matchFailure f) u)
    (refusesMove : ∀ k f u, (b.advanceFault k s.world).1 = some f →
      u.world = (b.advanceFault k s.world).2 → cut (.matchFailure f) u) :
    Follows cut (resumeLevel plan b s i behind)
      (resumeLevel plan (.steady lists) s.core i behind) := by
  have same : s.core.level? i = s.level? i := rfl
  unfold resumeLevel
  rw [same]
  cases s.level? i with
  | none => exact openLevel_follows answers i behind s.todo refusesOpen
  | some l => exact advanceLevel_follows l behind refusesMove

/-- **A step is cut short, or it is the step in steady surroundings.** -/
theorem step_follows (plan : JoinPlan) (answers : b.Answers lists) (s : JoinState ω) :
    Follows (Cut b s) (step plan b s) (step plan (.steady lists) s.core) := by
  unfold step
  by_cases finished : s.phase = .finished
  · rw [if_pos finished, if_pos (show s.core.phase = .finished from finished)]
    exact .same rfl
  · rw [if_neg finished, if_neg (show s.core.phase ≠ .finished from finished)]
    dsimp only [Backend.steady]
    cases raised : (b.stops s.world).1 with
    | true => exact .cut (.stopped raised)
    | false =>
        rw [if_neg Bool.false_ne_true, if_neg Bool.false_ne_true]
        -- with the fields in view both sides take the same branch
        obtain ⟨phase, levels, done, todo, table, cache, opens, rounds, world⟩ := s
        cases phase with
        | finished => exact absurd rfl finished
        | descending =>
            cases todo with
            | nil => exact .same (complete_inWorld plan _)
            | cons i todo => exact enterLevel_follows answers i todo fun sel f _ => .unopened sel f
        | retreating =>
            cases done with
            | nil => exact .same rfl
            | cons i behind =>
                exact resumeLevel_follows answers i behind (fun sel f _ => .unopened sel f)
                  fun k f _ => .unmoved k f

end Follows

/-! ## What a run delivers -/

/-- The rows that are left and then the error, if there is one. -/
def Drained.deliveries (d : Drained ω) : List Delivery :=
  d.rows.map .ok ++ d.error.toList.map .error

theorem drain_of_error {e : QueryError} (h : next plan b s = (some (.error e), u)) :
    drain plan b s = ⟨[], some e, u⟩ := by
  rw [drain]
  split <;> simp_all

/-- **Pull by pull** a run delivers its rows and its error, and then nothing. -/
theorem delivery_eq (s : JoinState ω) (i : Nat) :
    delivery plan b s i = (drain plan b s).deliveries[i]? := by
  induction s using drain.induct plan b generalizing i with
  | case1 s row s' pulled below ih =>
      obtain ⟨rows, error⟩ := drain_of_row pulled
      have front : (drain plan b s).deliveries = .ok row :: (drain plan b s').deliveries := by
        simp [Drained.deliveries, rows, error]
      rw [front]
      cases i with
      | zero => exact congrArg Prod.fst pulled
      | succ i =>
          rw [List.getElem?_cons_succ, ← ih, delivery, pulls, pulled]
          rfl
  | case2 s e s' pulled =>
      rw [drain_of_error pulled]
      have first : delivery plan b s 0 = some (.error e) := congrArg Prod.fst pulled
      cases i with
      | zero => exact first
      | succ i => exact delivery_of_ended (by simp [first]) (Nat.succ_pos i)
  | case3 s s' pulled =>
      rw [drain_of_none pulled]
      have first : delivery plan b s 0 = none := congrArg Prod.fst pulled
      cases i with
      | zero => exact first
      | succ i => exact delivery_of_ended (by simp [first]) (Nat.succ_pos i)

/-- Behind some of the rows the others are left, and the same error. -/
theorem drain_pulls {i : Nat} (h : i ≤ (drain plan b s).rows.length) :
    (drain plan b (pulls plan b i s)).rows = (drain plan b s).rows.drop i ∧
      (drain plan b (pulls plan b i s)).error = (drain plan b s).error := by
  induction i generalizing s with
  | zero => exact ⟨rfl, rfl⟩
  | succ i ih =>
      rcases pulled : next plan b s with ⟨_ | e | row, s'⟩
      · rw [drain_of_none pulled] at h
        exact absurd h (Nat.not_succ_le_zero i)
      · rw [drain_of_error pulled] at h
        exact absurd h (Nat.not_succ_le_zero i)
      · obtain ⟨rows, error⟩ := drain_of_row pulled
        rw [rows, List.length_cons] at h
        obtain ⟨rows', error'⟩ := ih (Nat.le_of_succ_le_succ h)
        rw [pulls, pulled, rows, error, List.drop_succ_cons]
        exact ⟨rows', error'⟩

theorem drain_failed {e : QueryError} (h : (drain plan b s).error = some e) :
    ∃ t u, Head plan b s t ∧ step plan b t = (.failed e, u) := by
  refine delivery_failed (n := (drain plan b s).rows.length) ?_
  rw [delivery_eq, Drained.deliveries, List.getElem?_append_right (by simp), h]
  simp

/-- A step that fails at a head of the run gives the run its error, by the pull that comes
behind all rows. -/
theorem Head.drain_error {e : QueryError} (head : Head plan b s t)
    (stepped : step plan b t = (.failed e, u)) :
    (drain plan b s).error = some e ∧
      ∀ i, (drain plan b s).rows.length < i → pulls plan b i s = u.finish b := by
  obtain ⟨n, same⟩ := head.next_eq
  rw [next_of_failed stepped] at same
  have failed : (drain plan b s).deliveries[n]? = some (.error e) := by
    rw [← delivery_eq, delivery, same]
  -- an error is delivered behind all rows, and there is only one
  have beyond : (drain plan b s).rows.length ≤ n := by
    refine Nat.le_of_not_lt fun inside => ?_
    rw [Drained.deliveries, List.getElem?_append_left (by simpa using inside),
      List.getElem?_map, List.getElem?_eq_getElem inside] at failed
    cases failed
  rw [Drained.deliveries, List.getElem?_append_right (by simpa using beyond), List.length_map]
    at failed
  cases error : (drain plan b s).error with
  | none =>
      rw [error] at failed
      cases failed
  | some e' =>
      rw [error] at failed
      obtain ⟨k, rfl⟩ := Nat.exists_eq_add_of_le beyond
      rw [Nat.add_sub_cancel_left] at failed
      cases k with
      | succ k => cases failed
      | zero =>
          rw [Nat.add_zero] at same
          refine ⟨?_, fun i behind => ?_⟩
          · cases failed
            rfl
          · rw [(pulls_of_ended (by simp [delivery, same]) behind).2, pulls_succ, same]

/-! ## Runs in steady surroundings -/

theorem step_core (answers : b.Answers lists) {r : StepResult} (h : step plan b s = (r, u))
    (calm : ∀ e, r ≠ .failed e) : step plan (.steady lists) s.core = (r, u.core) := by
  have follows := step_follows plan answers s
  rw [h] at follows
  cases follows with
  | cut _ => exact absurd rfl (calm _)
  | same steady => exact steady.symm

theorem next_core (answers : b.Answers lists) {d : Option Delivery}
    (h : next plan b s = (d, u)) (calm : ∀ e, d ≠ some (.error e)) :
    next plan (.steady lists) s.core = (d, u.core) := by
  induction s using next.induct plan b with
  | case1 s s' stepped below ih =>
      rw [next_of_running stepped] at h
      rw [next_of_running (step_core answers stepped (by simp))]
      exact ih h
  | case2 s row s' stepped =>
      rw [next_of_solution stepped] at h
      cases h
      exact next_of_solution (step_core answers stepped (by simp))
  | case3 s s' stepped =>
      rw [next_of_exhausted stepped] at h
      cases h
      rw [next_of_exhausted (step_core answers stepped (by simp)), ← finish_core]
  | case4 s e s' stepped =>
      rw [next_of_failed stepped] at h
      cases h
      exact absurd rfl (calm e)

/-- The rows of a run are first ones of the run in steady surroundings, and all of them if
there is no error. -/
theorem drain_core (answers : b.Answers lists) (s : JoinState ω) :
    (drain plan b s).rows <+: (drain plan (.steady lists) s.core).rows ∧
      ((drain plan b s).error = none →
        (drain plan b s).rows = (drain plan (.steady lists) s.core).rows) := by
  induction s using drain.induct plan b with
  | case1 s row s' pulled below ih =>
      obtain ⟨rows, error⟩ := drain_of_row pulled
      obtain ⟨rows', -⟩ := drain_of_row (next_core answers pulled nofun)
      rw [rows, rows', error]
      exact ⟨List.cons_prefix_cons.mpr ⟨rfl, ih.1⟩, fun none => congrArg _ (ih.2 none)⟩
  | case2 s e s' pulled =>
      rw [drain_of_error pulled]
      exact ⟨List.nil_prefix, nofun⟩
  | case3 s s' pulled =>
      rw [drain_of_none pulled, drain_of_none (next_core answers pulled nofun)]
      exact ⟨List.nil_prefix, fun _ => rfl⟩

theorem Orderly.not_failed (ready : plan.Ready) {b : Backend Unit} {s u : JoinState Unit}
    (steady : b = .steady lists) (h : Orderly plan table s) (e : QueryError) :
    step plan b s ≠ (.failed e, u) := by
  intro stepped
  have leads := step_leads b.keeps_any ready.distinct h trivial
  rw [stepped] at leads
  rcases leads.2 with refused | faulty
  · subst steady
    cases refused <;> contradiction
  · exact ready.not_faulty e faulty

theorem Orderly.cut (ready : plan.Ready) (answers : b.Answers lists) (h : Orderly plan table t)
    {e : QueryError} (stepped : step plan b t = (.failed e, u)) : Cut b t e u := by
  have follows := step_follows plan answers t
  rw [stepped] at follows
  cases follows with
  | cut cut => exact cut
  | same steady =>
      have orderly : Orderly plan table t.core :=
        ⟨⟨h.declared⟩, h.places, h.order, h.serving, h.numbered⟩
      exact absurd steady.symm (orderly.not_failed ready rfl e)

/-! ## After the last step -/

def closedCursors (levels : List Level) : List (Nat × Cursor) :=
  levels.filterMap fun l => l.number.map fun k => (k, l.cursor.close)

theorem foldl_closeLevel_world (levels : List Level) (s : JoinState ω) :
    (levels.foldl (closeLevel b) s).world = b.closeAll (closedCursors levels) s.world := by
  induction levels generalizing s with
  | nil => rfl
  | cons l levels ih =>
      rw [List.foldl_cons, ih, closedCursors, closedCursors, closeLevel]
      cases number : l.number with
      | none =>
          rw [List.filterMap_cons_none (by rw [number]; rfl)]
          rfl
      | some k =>
          rw [List.filterMap_cons_some (by rw [number]; rfl)]
          rfl

/-- To end a join only gives its cursors back, in the order of their patterns. -/
theorem finish_world (s : JoinState ω) :
    (s.finish b).world = b.closeAll (closedCursors (inPatternOrder s.levels)) s.world :=
  foldl_closeLevel_world (inPatternOrder s.levels) { s with levels := [] }

theorem VariableTable.selected_reset (table : VariableTable) :
    table.reset.selected.map (·.name) = table.selected.map (·.name) := by
  simp [VariableTable.selected, VariableTable.reset, List.map_take, Function.comp_def]

theorem Declares.columns (h : Declares table s) : s.columns = table.selected.map (·.name) := by
  unfold JoinState.columns
  rw [← VariableTable.selected_reset, h.declared, VariableTable.selected_reset]

/-! ## Disturbed runs -/

/-- A run from `s` is the undisturbed one, with the rows `full`, or a part of it. -/
structure CutsShort (plan : JoinPlan) (b : Backend ω) (s : JoinState ω) (full : List Solution) :
    Prop where
  /-- The rows are first ones of the undisturbed run. -/
  rows : (drain plan b s).rows <+: full
  /-- Without an error they are all of them. -/
  complete : (drain plan b s).error = none → (drain plan b s).rows = full
  /-- They are delivered pull by pull, then the error, if there is one, and then nothing. -/
  delivered : ∀ i, delivery plan b s i = (drain plan b s).deliveries[i]?
  /-- The error tells of the flag exactly if a step has seen it raised. -/
  aborted : (drain plan b s).error = some .aborted ↔
    ∃ t, Head plan b s t ∧ t.phase ≠ .finished ∧ (b.stops t.world).1 = true
  /-- The error is what a step was answered. -/
  answered : ∀ e, (drain plan b s).error = some e →
    ∃ t u, Head plan b s t ∧ step plan b t = (.failed e, u) ∧ Cut b t e u
  /-- After a step that has seen the flag raised, the open cursors are given back and nothing
  else is done to the source. -/
  quiet : ∀ t, Head plan b s t → t.phase ≠ .finished → (b.stops t.world).1 = true →
    ∀ i, (drain plan b s).rows.length < i →
      (pulls plan b i s).world =
        b.closeAll (closedCursors (inPatternOrder t.levels)) (b.stops t.world).2
  /-- A table of the rows that are left takes the error in their place. -/
  collected : ∀ i ≤ (drain plan b s).rows.length,
    (ResultTable.ofJoin plan b (pulls plan b i s)).1 =
      match (drain plan b s).error with
      | some e => .error e
      | none => .ok ⟨s.columns, (drain plan b s).rows.drop i⟩

theorem step_stopped (plan : JoinPlan) (running : t.phase ≠ .finished)
    (raised : (b.stops t.world).1 = true) :
    step plan b t = (.failed .aborted, { t with world := (b.stops t.world).2 }) := by
  unfold step
  rw [if_neg running]
  dsimp only
  rw [if_pos raised]

theorem drain_of_raised (plan : JoinPlan) (running : t.phase ≠ .finished)
    (raised : (b.stops t.world).1 = true) :
    (drain plan b t).rows = [] ∧ (drain plan b t).error = some .aborted := by
  rw [drain_of_error (next_of_failed (step_stopped plan running raised))]
  exact ⟨rfl, rfl⟩

/-- **Faults and the flag cut a run short** and do nothing else to it.  With the flag raised
from the start it is looked at once, and the source is never asked. -/
theorem disturbance_cuts (ready : plan.Ready) (table : VariableTable)
    (answers : b.Answers lists) (w : ω) :
    (drain plan (.steady lists) (start plan table ())).error = none ∧
      CutsShort plan b (start plan table w)
        (drain plan (.steady lists) (start plan table ())).rows ∧
      ((b.stops w).1 = true →
        ∀ i, (pulls plan b (i + 1) (start plan table w)).world = (b.stops w).2) := by
  have started := start_orderly plan table w
  have ofHead : ∀ {t}, Head plan b (start plan table w) t → Orderly plan table t :=
    fun head => head.orderly ready.distinct started
  refine ⟨?_, ⟨?_, ?_, delivery_eq _, ?_, ?_, ?_, ?_⟩, ?_⟩
  · refine Option.eq_none_iff_forall_ne_some.mpr fun e error => ?_
    obtain ⟨t, u, head, stepped⟩ := drain_failed error
    have orderly := head.orderly ready.distinct (start_orderly plan table ())
    exact orderly.not_failed ready rfl e stepped
  · exact (drain_core answers (start plan table w)).1
  · exact (drain_core answers (start plan table w)).2
  · constructor
    · intro aborted
      obtain ⟨t, u, head, stepped⟩ := drain_failed aborted
      refine ⟨t, head, fun finished => ?_, ?_⟩
      · rw [step, if_pos finished] at stepped
        cases stepped
      · cases (ofHead head).cut ready answers stepped with
        | stopped raised => exact raised
    · rintro ⟨t, head, running, raised⟩
      exact (head.drain_error (step_stopped plan running raised)).1
  · intro e error
    obtain ⟨t, u, head, stepped⟩ := drain_failed error
    exact ⟨t, u, head, stepped, (ofHead head).cut ready answers stepped⟩
  · intro t head running raised i behind
    rw [(head.drain_error (step_stopped plan running raised)).2 i behind, finish_world]
  · intro i inside
    obtain ⟨rows, error⟩ := drain_pulls inside
    have columns : (pulls plan b i (start plan table w)).columns = (start plan table w).columns :=
      (started.pulls ready.distinct i).columns.trans started.columns.symm
    unfold ResultTable.ofJoin
    dsimp only
    rw [rows, error, columns]
    cases (drain plan b (start plan table w)).error <;> rfl
  · intro raised i
    have stopped := step_stopped plan (t := start plan table w) nofun raised
    rw [pulls, next_of_failed stopped, (finish_over b _).pulls, finish_world]
    show b.closeAll (closedCursors (inPatternOrder [])) _ = _
    rw [inPatternOrder, List.mergeSort_nil]
    rfl

/-- Two steps along a chain, from a source that does not open a second cursor. -/
theorem chain_cut_short :
    let b := Backend.ofSource chainStore.source ⟨some 1, none, none⟩
    let full := drain chainPlan (.steady chainStore.select) (start chainPlan chainTable ())
    chainPlan.Ready ∧ b.Answers chainStore.select ∧
      CutsShort chainPlan b (start chainPlan chainTable ⟨false, 0, 0⟩) full.rows := by
  have answers : (Backend.ofSource chainStore.source ⟨some 1, none, none⟩).Answers
      chainStore.select :=
    (Backend.ofSource_honest (fun _ => rfl) chain_selects _).candidates_eq
  exact ⟨chainPlan_proper.ready, answers,
    (disturbance_cuts chainPlan_proper.ready chainTable answers ⟨false, 0, 0⟩).2.1⟩

end JoinState

end GraphPattern
