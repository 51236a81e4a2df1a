/-
# The rows of a join are those of its nested loops

A backend that is honest and *calm*, one that refuses nothing, lets every step go on, so
a join delivers one row after the other of its nested loops until there is none.
`next_simulates` is one delivery, `drain_simulates` all of them, and
`drain_eq_answers` says it of a join from its start.
-/
import GraphPattern.Join.Run
import GraphPattern.Proofs.Join.Simulation
import GraphPattern.Proofs.Store.Refinement

namespace GraphPattern

/-! ## Calm backends -/

namespace Backend

variable {ω : Type}

/-- In the states `up` nothing is refused, and every answer leads to such a state. -/
structure Calm (b : Backend ω) (up : ω → Prop) : Prop where
  goes : ∀ w, up w → (b.stops w).1 = false ∧ up (b.stops w).2
  finds : ∀ p w, up w → (∃ found, (b.candidates p w).1 = .ok found) ∧ up (b.candidates p w).2
  reads : ∀ k w, up w → up (b.reads k w)
  moves : ∀ k w, up w → (b.advanceFault k w).1 = none ∧ up (b.advanceFault k w).2
  closes : ∀ k c w, up w → up (b.closes k c w)

variable {b : Backend ω} {up : ω → Prop} {w : ω}

theorem Calm.not_refuses (calm : b.Calm up) (h : up w) (e : QueryError) : ¬ b.Refuses w e := by
  obtain ⟨goes, h'⟩ := calm.goes w h
  intro refused
  cases refused with
  | stopped stops =>
      rw [goes] at stops
      cases stops
  | unopened p f failed =>
      obtain ⟨⟨found, ok⟩, -⟩ := calm.finds p _ h'
      rw [ok] at failed
      cases failed
  | unmoved k f failed =>
      rw [(calm.moves k _ h').1] at failed
      cases failed

/-- A source that answers with lists of candidates that agree makes an honest backend,
whatever faults are planned. -/
theorem ofSource_honest {source : TripleSource} {lists : Candidates}
    (answers : ∀ p, source p = .ok (lists p)) (selects : ∀ p, ∀ t ∈ lists p, p.selects t = true)
    (faults : FaultPlan) : (ofSource source faults).Honest lists := by
  refine ⟨fun p w found h => ?_, selects⟩
  simp only [ofSource] at h
  split at h
  · cases h
  · rw [answers p] at h
    exact (Except.ok.inj h).symm

theorem ofSource_calm {source : TripleSource} {lists : Candidates}
    (answers : ∀ p, source p = .ok (lists p)) :
    (ofSource source .none).Calm fun w => w.aborted = false where
  goes w h := ⟨h, h⟩
  finds p w h := ⟨⟨lists p, by simp [ofSource, FaultPlan.none, answers p]⟩,
    by simp [ofSource, FaultPlan.none, h]⟩
  reads _ _ h := h
  moves _ w h := ⟨by simp [ofSource, FaultPlan.none], h⟩
  closes _ _ _ h := h

end Backend

namespace JoinState

variable {ω : Type} {plan : JoinPlan} {table : VariableTable} {lists : Candidates}
  {b : Backend ω} {up : ω → Prop} {s : JoinState ω} {rows : List Substitution}

/-! ## What a step does to the world -/

theorem tell_up {call : Nat → ω → ω} (kept : ∀ k w, up w → up (call k w)) (h : up s.world)
    (number : Option Nat) : up (s.tell call number).world := by
  cases number with
  | none => exact h
  | some k => exact kept k s.world h

theorem closeLevel_up (calm : b.Calm up) (h : up s.world) (l : Level) :
    up (s.closeLevel b l).world :=
  tell_up (s := s.release l) (fun k => calm.closes k l.cursor.close) h l.number

theorem retreat_world (s : JoinState ω) : s.retreat.2.world = s.world := by
  unfold retreat
  split <;> rfl

theorem leave_up (calm : b.Calm up) (h : up s.world) (l : Level) (behind todo : List Nat) :
    up (s.leave b l behind todo).2.world := by
  have closed (t : JoinState ω) (h : up t.world) : up (t.closeLevel b l).world :=
    closeLevel_up calm h l
  unfold leave
  dsimp only
  split
  · exact h
  · next t counted =>
      rw [retreat_world]
      rcases countRound_some counted with ⟨-, rfl⟩ | ⟨n, -, rfl⟩
      · exact closed _ h
      · exact closed _ h

theorem examine_up (calm : b.Calm up) (h : up s.world) (l : Level) (behind todo : List Nat) :
    up (s.examine b l behind todo).2.world := by
  have read : up (s.tell b.reads l.number).world := tell_up calm.reads h l.number
  unfold examine
  dsimp only
  split
  · split
    · exact read
    · exact read
  · exact leave_up calm read l behind todo

theorem openLevel_up (calm : b.Calm up) (h : up s.world) (i : Nat) (behind todo : List Nat) :
    up (openLevel plan b s i behind todo).2.world := by
  unfold openLevel
  split
  · exact h
  · split
    · exact h
    · split
      · exact examine_up calm h _ behind todo
      · next sel _ =>
          have after := (calm.finds sel s.world h).2
          unfold openCursor
          dsimp only
          cases (b.candidates sel s.world).1 with
          | error e => exact after
          | ok triples =>
              exact examine_up (s := { s with
                world := (b.candidates sel s.world).2
                opens := s.opens + 1 }) calm after _ behind todo

theorem advanceLevel_up (calm : b.Calm up) (h : up s.world) (l : Level) (behind : List Nat) :
    up (advanceLevel b s l behind).2.world := by
  unfold advanceLevel advanceCursor
  cases l.number with
  | none =>
      dsimp only
      cases l.cursor.advance with
      | error e => exact h
      | ok cursor => exact examine_up (s := s.release l) calm h _ behind _
  | some k =>
      have after := (calm.moves k s.world h).2
      dsimp only
      cases (b.advanceFault k (s.release l).world).1 with
      | some e => exact after
      | none =>
          cases l.cursor.advance with
          | error e => exact after
          | ok cursor =>
              exact examine_up (s := { s.release l with
                world := (b.advanceFault k s.world).2 }) calm after _ behind _

theorem complete_world (plan : JoinPlan) (s : JoinState ω) :
    (complete plan s).2.world = s.world := by
  obtain ⟨holds, cache, judged⟩ := judge_cases plan s
  unfold complete
  rw [judged]
  cases holds with
  | true => rfl
  | false => exact retreat_world { s with cache := cache }

theorem step_up (plan : JoinPlan) (calm : b.Calm up) (h : up s.world) :
    up (step plan b s).2.world := by
  have after := (calm.goes s.world h).2
  unfold step
  split
  · exact h
  · dsimp only
    split
    · exact after
    · split
      · unfold resumeLevel
        split
        · exact advanceLevel_up calm after _ _
        · exact openLevel_up calm after _ _ _
      · unfold enterLevel
        split
        · exact examine_up (s := { s with world := (b.stops s.world).2 }) calm after _ _ _
        · exact openLevel_up calm after _ _ _
      · rw [complete_world]
        exact after
      · exact after

/-! ## Runs -/

/-- What a delivery may come to when these substitutions are still to come. -/
def Delivers (plan : JoinPlan) (table : VariableTable) (lists : Candidates) (up : ω → Prop)
    (rows : List Substitution) : Option Delivery × JoinState ω → Prop
  | (some (.ok row), s) => ∃ σ rest, rows = σ :: rest ∧ row = table.row σ ∧
      Simulates plan table lists s rest ∧ up s.world
  | (some (.error _), _) => False
  | (none, _) => rows = []

theorem next_simulates (honest : b.Honest lists) (calm : b.Calm up)
    (wf : plan.Proper table.size) (h : Simulates plan table lists s rows) (world : up s.world) :
    Delivers plan table lists up rows (next plan b s) := by
  induction s using next.induct plan b with
  | case1 s t hstep below ih =>
      have meets := step_meets honest wf h
      have world' := step_up plan calm world
      rw [hstep] at meets world'
      rw [next_of_running hstep]
      exact ih meets world'
  | case2 s row t hstep =>
      have meets := step_meets honest wf h
      have world' := step_up plan calm world
      rw [hstep] at meets world'
      rw [next_of_solution hstep]
      obtain ⟨σ, rest, split, same, sim⟩ := meets
      exact ⟨σ, rest, split, same, sim, world'⟩
  | case3 s t hstep =>
      have meets := step_meets honest wf h
      rw [hstep] at meets
      rw [next_of_exhausted hstep]
      exact meets
  | case4 s e t hstep =>
      have meets := step_meets honest wf h
      rw [hstep] at meets
      exact absurd meets (calm.not_refuses world e)

theorem drain_of_row {row : Solution} {s' : JoinState ω}
    (h : next plan b s = (some (.ok row), s')) :
    (drain plan b s).rows = row :: (drain plan b s').rows ∧
      (drain plan b s).error = (drain plan b s').error := by
  rw [drain]
  split <;> simp_all

theorem drain_of_none {s' : JoinState ω} (h : next plan b s = (none, s')) :
    drain plan b s = ⟨[], none, s'⟩ := by
  rw [drain]
  split <;> simp_all

theorem drain_simulates (honest : b.Honest lists) (calm : b.Calm up)
    (wf : plan.Proper table.size) (h : Simulates plan table lists s rows) (world : up s.world) :
    (drain plan b s).rows = rows.map table.row ∧ (drain plan b s).error = none := by
  induction rows generalizing s with
  | nil =>
      have delivers := next_simulates honest calm wf h world
      rcases hnext : next plan b s with ⟨_ | _ | row, s'⟩
      · rw [drain_of_none hnext]
        exact ⟨rfl, rfl⟩
      · rw [hnext] at delivers
        exact delivers.elim
      · rw [hnext] at delivers
        obtain ⟨σ, rest, split, -⟩ := delivers
        cases split
  | cons σ rows ih =>
      have delivers := next_simulates honest calm wf h world
      rcases hnext : next plan b s with ⟨_ | _ | row, s'⟩
      · rw [hnext] at delivers
        cases delivers
      · rw [hnext] at delivers
        exact delivers.elim
      · rw [hnext] at delivers
        obtain ⟨σ', rest, split, same, sim, world'⟩ := delivers
        cases split
        obtain ⟨rowsEq, noError⟩ := ih sim world'
        obtain ⟨first, error⟩ := drain_of_row hnext
        rw [first, error, rowsEq, same]
        exact ⟨rfl, noError⟩

/-- **A join delivers the rows of its nested loops**: all of them, each once, in their
order, and no error. -/
theorem drain_eq_answers (honest : b.Honest lists) (calm : b.Calm up)
    (wf : plan.Proper table.size) {w : ω} (world : up w) :
    (drain plan b (start plan table w)).rows = (plan.answers table lists).map table.row ∧
      (drain plan b (start plan table w)).error = none :=
  drain_simulates honest calm wf (start_simulates plan table lists w) world

/-! ## A join of two steps along a chain -/

/-- Two triples, the second one where the first one ends. -/
def chainEdits : List StoreEdit :=
  [.insert ⟨.blank ⟨"a", by decide⟩, .xsdString, .blank ⟨"b", by decide⟩⟩,
    .insert ⟨.blank ⟨"b", by decide⟩, .xsdString, .blank ⟨"c", by decide⟩⟩]

def chainStore : Store := .ofEdits chainEdits

/-- Two steps along a chain; the second one is looked at first. -/
def chainPlan : JoinPlan where
  patterns :=
    [⟨.slot ⟨0⟩, .term (.iri .xsdString), .slot ⟨1⟩⟩,
      ⟨.slot ⟨1⟩, .term (.iri .xsdString), .slot ⟨2⟩⟩]
  order := [1, 0]
  constraint := none

/-- The variables of the steps; where the second one ends is not selected. -/
def chainTable : VariableTable :=
  ((VariableTable.empty.push "x" true).push "y" true).push "z" false

theorem chainPlan_proper : chainPlan.Proper chainTable.size where
  within := by
    intro p hp pos
    simp only [chainPlan, List.mem_cons, List.not_mem_nil, or_false] at hp
    rcases hp with rfl | rfl <;> cases pos <;>
      simp [TriplePattern.term, PatternTerm.Within, chainTable, VariableTable.size,
        VariableTable.push, VariableTable.empty]
  inRange := by decide
  distinct := by decide

theorem chain_selects (p : TripleSelector) : ∀ t ∈ chainStore.select p, p.selects t = true :=
  fun _ h => (List.mem_filter.mp h).2

theorem chain_rows :
    let b := Backend.ofSource chainStore.source .none
    (drain chainPlan b (start chainPlan chainTable ⟨false, 0, 0⟩)).rows =
        [(Solution.empty.push "x" (some (.blank ⟨"a", by decide⟩))).push "y"
          (some (.blank ⟨"b", by decide⟩))] ∧
      (drain chainPlan b (start chainPlan chainTable ⟨false, 0, 0⟩)).error = none := by
  obtain ⟨rows, noError⟩ := drain_eq_answers
    (Backend.ofSource_honest (fun _ => rfl) chain_selects .none)
    (Backend.ofSource_calm fun _ => rfl) chainPlan_proper (w := ⟨false, 0, 0⟩) rfl
  exact ⟨rows.trans (by decide +kernel), noError⟩

end JoinState

end GraphPattern
