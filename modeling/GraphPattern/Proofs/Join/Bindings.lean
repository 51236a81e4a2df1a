/-
# What the levels of a join have bound

A join has one table, in which its levels bind and release their variables.  Each level was
opened under the substitution of the levels in front of it and adds what its candidate matches
(`Bindings`).  At a head (`Carries`) the table is just this substitution; but when the search
goes back, the innermost level may have bound its variables, if the search went on from it, or
none of them, if its candidate was a contradiction.

There is one lemma for each move of the machine, and `step_stacks` puts them together.  The
source need not give the same candidates each time, so that the substitutions still to come,
as in `Simulates`, are of no use here.
-/
import GraphPattern.Proofs.Join.Answers
import GraphPattern.Proofs.Join.Discipline

namespace GraphPattern

/-- The candidates that a backend gives agree with the selector.  They may be others each time,
and requests may be refused. -/
def Backend.Conforms {ω : Type} (b : Backend ω) : Prop :=
  ∀ sel w found, (b.candidates sel w).1 = .ok found → ∀ t ∈ found, sel.selects t = true

theorem Backend.Honest.conforms {ω : Type} {b : Backend ω} {lists : Candidates}
    (h : b.Honest lists) : b.Conforms := by
  intro sel w found answer t mem
  obtain rfl := h.candidates_eq sel w found answer
  exact h.selects sel t mem

/-- The slots that are planned are variables of a table of `n` variables. -/
def JoinPlan.SlotsWithin (plan : JoinPlan) (n : Nat) : Prop :=
  ∀ i ∈ plan.order, ∀ p, plan.patterns[i]? = some p → ∀ id, .slot id ∈ p.terms → id.index < n

/-- A variable is among those that a level binds. -/
def Level.Records (l : Level) (id : VarId) : Prop := id ∈ l.binders.map (·.id)

/-! ## What a match binds -/

namespace TriplePattern

variable {p : TriplePattern} {σ σ' : Substitution} {t : Triple} {id : VarId} {n : Nat}

theorem mem_binders : id ∈ (p.binders σ).map (·.id) ↔ .slot id ∈ p.terms ∧ σ id = none := by
  constructor
  · intro mem
    obtain ⟨d, listed, rfl⟩ := List.mem_map.mp mem
    refine ⟨?_, VariableTable.binders_new listed⟩
    obtain ⟨pos, -, bound⟩ := List.mem_filterMap.mp listed
    obtain ⟨id, opened, rfl⟩ := Option.map_eq_some_iff.mp bound
    exact (PatternTerm.open?_eq_some.mp opened).1 ▸ p.term_mem pos
  · rintro ⟨occurs, new⟩
    obtain ⟨pos, mem, same⟩ := exists_position occurs
    have opened : (p.term pos).open? σ = some id := PatternTerm.open?_eq_some.mpr ⟨same, new⟩
    have bound : p.binderAt σ pos = some ⟨pos, id⟩ := by
      rw [binderAt, opened]
      rfl
    exact List.mem_map.mpr ⟨⟨pos, id⟩, List.mem_filterMap.mpr ⟨pos, mem, bound⟩, rfl⟩

theorem isSome_match (matched : p.match? σ t = some σ') :
    (σ' id).isSome ↔ (σ id).isSome ∨ id ∈ (p.binders σ).map (·.id) := by
  obtain ⟨grown, stands, others⟩ := match?_sound matched
  rw [mem_binders]
  constructor
  · intro value
    cases new : σ id with
    | some u => exact .inl rfl
    | none =>
        refine .inr ⟨Classical.byContradiction fun out => ?_, rfl⟩
        rw [others id new out] at value
        cases value
  · rintro (value | ⟨occurs, -⟩)
    · obtain ⟨u, value⟩ := Option.isSome_iff_exists.mp value
      rw [grown id u value]
      rfl
    · exact Option.isSome_iff_exists.mpr (stands.value occurs)

theorem within_of_view {table : VariableTable} {v : PatternView}
    (view : p.viewUnder table = .ok v)
    (slots : ∀ id, .slot id ∈ p.terms → id.index < n) : p.Within n := by
  have part : ∀ {x : PatternTerm} {s : Slot}, x ∈ p.terms → x.slotUnder table = .ok s →
      x.Within n := by
    intro x s mem read
    cases x with
    | term t => trivial
    | slot id => exact slots id mem
    | reference _ | qname _ | named _ => cases read
  obtain ⟨subject, predicate, object⟩ := viewUnder_ok view
  intro pos
  cases pos with
  | subject => exact part (p.term_mem .subject) subject
  | predicate => exact part (p.term_mem .predicate) predicate
  | object => exact part (p.term_mem .object) object

end TriplePattern

namespace JoinState

variable {ω : Type}

/-! ## The stack of bindings -/

/-- The open levels, the innermost first, have matched their candidates one after the other,
and this is the substitution that they have come to. -/
inductive Bindings (plan : JoinPlan) (n : Nat) : List Level → Substitution → Prop where
  | bottom : Bindings plan n [] .empty
  | level {l : Level} {levels : List Level} {p : TriplePattern} {σ σ' : Substitution}
      {t : Triple} {ts : List Triple} (below : Bindings plan n levels σ)
      (reads : Reads plan σ l p (t :: ts)) (within : p.Within n)
      (matched : p.match? σ t = some σ') : Bindings plan n (l :: levels) σ'

section Bindings

variable {plan : JoinPlan} {n : Nat} {l : Level} {levels : List Level} {σ : Substitution}
  {id : VarId}

theorem Bindings.recorded (h : Bindings plan n levels σ) :
    (σ id).isSome ↔ ∃ l ∈ levels, l.Records id := by
  induction h with
  | bottom => simp [Substitution.empty]
  | @level l levels p σ σ' t ts below reads within matched ih =>
      have own : l.Records id ↔ id ∈ (p.binders σ).map (·.id) := by
        rw [Level.Records, reads.binders]
      rw [TriplePattern.isSome_match matched, ih, ← own, or_comm]
      simp only [List.mem_cons, exists_eq_or_imp]

/-- A level that is opened under a substitution records what no other level does. -/
theorem Bindings.apart (h : Bindings plan n levels σ) {p : TriplePattern}
    (binders : l.binders = p.binders σ) : ∀ m ∈ levels, ∀ id, l.Records id → ¬ m.Records id := by
  intro m mem id own other
  rw [Level.Records, binders, TriplePattern.mem_binders] at own
  have value : (σ id).isSome := h.recorded.mpr ⟨m, mem, other⟩
  rw [own.2] at value
  cases value

theorem Bindings.pairwise (h : Bindings plan n levels σ) :
    levels.Pairwise fun l m => ∀ id, l.Records id → ¬ m.Records id := by
  induction h with
  | bottom => exact .nil
  | level below reads _ _ ih => exact .cons (below.apart reads.binders) ih

/-- The pattern of every level stands for its candidate, whatever was bound since. -/
theorem Bindings.stands (h : Bindings plan n levels σ) :
    ∀ l ∈ levels, ∃ p t, plan.patterns[l.pattern]? = some p ∧ l.cursor.current = some t ∧
      p.Stands σ t := by
  induction h with
  | bottom => exact nofun
  | level below reads _ matched ih =>
      obtain ⟨grown, stands, -⟩ := TriplePattern.match?_sound matched
      intro m mem
      rcases List.mem_cons.mp mem with rfl | mem
      · exact ⟨_, _, reads.pattern, reads.current, stands⟩
      · obtain ⟨q, c, found, current, stands'⟩ := ih m mem
        exact ⟨q, c, found, current, stands'.mono grown⟩

theorem Bindings.occurs (h : Bindings plan n levels σ) (value : (σ id).isSome) :
    ∃ l ∈ levels, ∃ p, plan.patterns[l.pattern]? = some p ∧ p.Within n ∧ .slot id ∈ p.terms := by
  induction h with
  | bottom => cases value
  | level below reads within matched ih =>
      rcases (TriplePattern.isSome_match matched).mp value with old | new
      · obtain ⟨m, mem, q, found, inside, occurs⟩ := ih old
        exact ⟨m, List.mem_cons_of_mem _ mem, q, found, inside, occurs⟩
      · exact ⟨_, List.mem_cons_self, _, reads.pattern, within,
          (TriplePattern.mem_binders.mp new).1⟩

theorem Bindings.value_eq {table : VariableTable} (h : Bindings plan table.size levels σ) :
    (table.assign σ).value = σ := by
  funext id
  by_cases inside : id.index < table.size
  · exact table.value_assign σ inside
  · have beyond : (table.assign σ).value id = none := by
      have size : table.entries.length ≤ id.index := Nat.le_of_not_lt inside
      simp [VariableTable.value, VariableTable.get?, VariableTable.assign, size]
    rw [beyond]
    cases value : σ id with
    | none => rfl
    | some u =>
        obtain ⟨l, -, p, -, within, occurs⟩ := h.occurs (show (σ id).isSome from value ▸ rfl)
        obtain ⟨pos, -, same⟩ := TriplePattern.exists_position occurs
        have place := within pos
        rw [same] at place
        exact absurd place inside

end Bindings

/-! ## The invariant -/

/-- The levels that hold a candidate: going back, the innermost one is about to give up its
own. -/
def held (s : JoinState ω) : List Level :=
  match s.phase with
  | .retreating => s.levels.tail
  | _ => s.levels

theorem held_of_ne {s : JoinState ω} (h : s.phase ≠ .retreating) : s.held = s.levels := by
  unfold held
  split
  · next phase => exact absurd phase h
  · rfl

/-- The table without what the innermost level has bound, if the search goes back to it. -/
def cleared (s : JoinState ω) : VariableTable :=
  match s.phase, s.levels with
  | .retreating, l :: _ => s.table.release l.binders
  | _, _ => s.table

/-- The table has the bindings of the open levels.  Going back, it has those of the innermost
one, or none of them if its candidate does not match. -/
inductive Carries (plan : JoinPlan) (table : VariableTable) (s : JoinState ω) : Prop where
  | descending {σ : Substitution} (phase : s.phase = .descending)
      (bindings : Bindings plan table.size s.levels σ) (values : s.table = table.assign σ)
  | retreating {l : Level} {levels : List Level} {p : TriplePattern} {σ : Substitution}
      {t : Triple} {ts : List Triple} (phase : s.phase = .retreating)
      (top : s.levels = l :: levels) (bindings : Bindings plan table.size levels σ)
      (reads : Reads plan σ l p (t :: ts)) (within : p.Within table.size)
      (values : s.table = table.assign ((p.match? σ t).getD σ))
  | finished (phase : s.phase = .finished) (closed : s.levels = [])
      (values : s.table = table.assign .empty)

/-- What becomes of the candidate of a level: it is bound and the search goes down, or it is a
contradiction, and then the table is as it was before. -/
inductive Tried (before : VariableTable) (l : Level) (u : JoinState ω) : Prop where
  | bound {t : Triple} (candidate : l.cursor.current = some t)
      (agrees : (before.unify t l.binders).1 = true) (phase : u.phase = .descending)
      (values : u.table = (before.unify t l.binders).2)
  | contradicted {t : Triple} (candidate : l.cursor.current = some t)
      (disagrees : (before.unify t l.binders).1 = false) (phase : u.phase = .retreating)
      (values : u.table = before)

/-- What a step may lead to, where `levels` hold their candidates and `before` has what they
have bound. -/
def Stacks (plan : JoinPlan) (table : VariableTable) (levels : List Level)
    (before : VariableTable) : StepResult × JoinState ω → Prop
  | (.running, u) => Carries plan table u ∧ ∀ l, u.levels = l :: levels → Tried before l u
  | (.solution _, u) => Carries plan table u
  | _ => True

variable {plan : JoinPlan} {table before : VariableTable} {b : Backend ω} {s t u : JoinState ω}
  {σ : Substitution}

theorem start_carries (plan : JoinPlan) (table : VariableTable) (w : ω) :
    Carries plan table (start plan table w) :=
  .descending rfl .bottom table.reset_eq_assign

/-! ## Going back -/

theorem Bindings.carries (h : Bindings plan table.size s.levels σ)
    (phase : s.phase = .retreating) (values : s.table = table.assign σ)
    (inside : s.levels ≠ []) : Carries plan table s := by
  generalize top : s.levels = levels at h inside
  cases h with
  | bottom => exact absurd rfl inside
  | level below reads within matched =>
      refine .retreating phase top below reads within ?_
      rw [values, matched]
      rfl

theorem retreat_stacks (bindings : Bindings plan table.size s.levels σ)
    (values : s.table = table.assign σ) (places : s.levels.map (·.pattern) = s.done) :
    Stacks plan table s.levels before s.retreat := by
  unfold retreat
  by_cases outside : s.levels = []
  · have none : s.done = [] := by
      rw [← places, outside]
      rfl
    rw [none]
    trivial
  · have some : s.done.isEmpty = false := by
      rw [← places]
      simpa using outside
    have carries : Carries plan table { s with phase := .retreating } :=
      Bindings.carries (s := { s with phase := .retreating }) bindings rfl values outside
    rw [some]
    refine ⟨carries, ?_⟩
    intro l same
    exact absurd same.symm (List.cons_ne_self l s.levels)

/-! ## Looking at a candidate -/

section Examine

variable {l : Level} {levels : List Level} {behind todo : List Nat} {p : TriplePattern}
  {ts : List Triple}

theorem leave_stacks (kept : s.others l.pattern = levels)
    (places : levels.map (·.pattern) = behind) (new : l.pattern ∉ behind)
    (bindings : Bindings plan table.size levels σ) (binders : l.binders = p.binders σ)
    (values : s.table = table.assign σ) :
    Stacks plan table levels before (s.leave b l behind todo) := by
  unfold leave
  dsimp only
  rw [countRound_new new, kept]
  dsimp only
  generalize closed : closeLevel b _ l = u
  have same : u.levels = levels := by
    rw [← closed, closeLevel_levels]
  have released : u.table = table.assign σ := by
    rw [← closed, closeLevel_table]
    show s.table.release l.binders = _
    rw [values, binders, VariableTable.release_binders]
  have behind' : u.levels.map (·.pattern) = u.done := by
    rw [← closed, closeLevel_levels, closeLevel_done]
    exact places
  have leads : Stacks plan table u.levels before u.retreat :=
    retreat_stacks (same.symm ▸ bindings) released behind'
  rwa [same] at leads

/-- **A candidate is bound or leaves the table as it was.** -/
theorem examine_stacks (kept : s.others l.pattern = levels)
    (places : levels.map (·.pattern) = behind) (new : l.pattern ∉ behind)
    (bindings : Bindings plan table.size levels σ) (reads : Reads plan σ l p ts)
    (within : p.Within table.size) (values : s.table = table.assign σ) :
    Stacks plan table levels (table.assign σ) (s.examine b l behind todo) := by
  have kept' : (s.tell b.reads l.number).others l.pattern = levels := by
    unfold others
    rw [tell_levels]
    exact kept
  unfold examine
  dsimp only
  cases ts with
  | nil =>
      have none : l.cursor.current = none := reads.current
      rw [none]
      exact leave_stacks kept' places new bindings reads.binders (by rw [tell_table, values])
  | cons c ts =>
      have candidate : l.cursor.current = some c := reads.current
      obtain ⟨υ, unified, last, released⟩ :=
        VariableTable.unify_assign within (reads.fits c List.mem_cons_self)
      rw [← reads.binders] at unified released
      rw [candidate]
      simp only [tell_table, values, unified, kept']
      cases matched : p.match? σ c with
      | some σ' =>
          obtain rfl := last σ' matched
          rw [matched] at unified
          refine ⟨.descending rfl (.level bindings reads within matched) rfl, ?_⟩
          rintro m same
          obtain rfl : l = m := (List.cons.inj same).1
          refine .bound candidate ?_ rfl ?_
          · rw [unified]
            rfl
          · rw [unified]
      | none =>
          rw [matched] at unified
          have same :
              (table.assign υ).release l.binders = table.assign ((p.match? σ c).getD σ) := by
            rw [released, matched]
            rfl
          refine ⟨.retreating rfl rfl bindings reads within same, ?_⟩
          rintro m same
          obtain rfl : l = m := (List.cons.inj same).1
          refine .contradicted candidate ?_ rfl released
          rw [unified]
          rfl

end Examine

/-! ## Opening a level and moving it on -/

theorem openLevel_stacks (conforms : b.Conforms) (slots : plan.SlotsWithin table.size) {i : Nat}
    {todo : List Nat} (planned : i ∈ plan.order) (new : i ∉ s.done)
    (places : s.levels.map (·.pattern) = s.done)
    (bindings : Bindings plan table.size s.levels σ) (values : s.table = table.assign σ) :
    Stacks plan table s.levels (table.assign σ) (openLevel plan b s i s.done todo) := by
  have kept : s.levels.filter (fun l => l.pattern ≠ i) = s.levels :=
    others_eq_self (places.symm ▸ new)
  unfold openLevel
  cases found : plan.patterns[i]? with
  | none => trivial
  | some p =>
      dsimp only
      rw [values]
      cases view : p.viewUnder (table.assign σ) with
      | error e => trivial
      | ok v =>
          have within := TriplePattern.within_of_view view (slots i planned p found)
          obtain ⟨v', view', binders, selector⟩ := TriplePattern.viewUnder_assign within σ
          obtain rfl : v = v' := Except.ok.inj (view.symm.trans view')
          dsimp only
          rw [selector, binders]
          cases asked : p.selector? σ with
          | none =>
              exact examine_stacks kept places new bindings ⟨found, rfl, rfl, nofun⟩ within values
          | some sel =>
              dsimp only
              unfold openCursor
              dsimp only
              cases answer : (b.candidates sel s.world).1 with
              | error e => trivial
              | ok triples =>
                  have fits : ∀ c ∈ triples, p.Fits σ c := by
                    intro c mem
                    have selects := conforms sel s.world triples answer c mem
                    exact TriplePattern.fits_of_selects asked selects
                  exact examine_stacks kept places new bindings ⟨found, rfl, rfl, fits⟩ within
                    values

theorem release_candidate {l : Level} {p : TriplePattern} {c : Triple} {ts : List Triple}
    (within : p.Within table.size) (reads : Reads plan σ l p (c :: ts)) :
    (table.assign ((p.match? σ c).getD σ)).release l.binders = table.assign σ := by
  rw [reads.binders]
  cases matched : p.match? σ c with
  | some σ' => exact release_matched within (reads.fits c List.mem_cons_self) matched
  | none => exact VariableTable.release_binders

theorem advanceLevel_stacks {l : Level} {levels : List Level} {p : TriplePattern} {c : Triple}
    {ts : List Triple} (top : s.levels = l :: levels) (new : l.pattern ∉ levels.map (·.pattern))
    (bindings : Bindings plan table.size levels σ) (reads : Reads plan σ l p (c :: ts))
    (within : p.Within table.size) (values : s.table.release l.binders = table.assign σ) :
    Stacks plan table levels (table.assign σ)
      (advanceLevel b s l (levels.map (·.pattern))) := by
  have kept : s.others l.pattern = levels := others_of_top top new
  unfold advanceLevel advanceCursor
  cases l.number with
  | none =>
      dsimp only
      rw [reads.moved]
      exact examine_stacks kept rfl new bindings (reads.advanced _) within values
  | some k =>
      dsimp only
      cases (b.advanceFault k (s.release l).world).1 with
      | some e => trivial
      | none =>
          dsimp only
          rw [reads.moved]
          exact examine_stacks kept rfl new bindings (reads.advanced _) within values

theorem enterLevel_stacks (conforms : b.Conforms) (slots : plan.SlotsWithin table.size) {i : Nat}
    {todo : List Nat} (planned : i ∈ plan.order) (new : i ∉ s.done)
    (places : s.levels.map (·.pattern) = s.done)
    (bindings : Bindings plan table.size s.levels σ) (values : s.table = table.assign σ) :
    Stacks plan table s.levels (table.assign σ) (enterLevel plan b s i todo) := by
  unfold enterLevel
  rw [level?_eq_none (places.symm ▸ new)]
  exact openLevel_stacks conforms slots planned new places bindings values

theorem resumeLevel_stacks {l : Level} {levels : List Level} {p : TriplePattern} {c : Triple}
    {ts : List Triple} (top : s.levels = l :: levels) (new : l.pattern ∉ levels.map (·.pattern))
    (bindings : Bindings plan table.size levels σ) (reads : Reads plan σ l p (c :: ts))
    (within : p.Within table.size) (values : s.table.release l.binders = table.assign σ) :
    Stacks plan table levels (table.assign σ)
      (resumeLevel plan b s l.pattern (levels.map (·.pattern))) := by
  unfold resumeLevel
  rw [level?_top top]
  exact advanceLevel_stacks top new bindings reads within values

/-! ## One step -/

theorem complete_stacks (bindings : Bindings plan table.size s.levels σ)
    (values : s.table = table.assign σ) (places : s.levels.map (·.pattern) = s.done) :
    Stacks plan table s.levels before (complete plan s) := by
  obtain ⟨holds, cache, judged⟩ := judge_cases plan s
  unfold complete
  rw [judged]
  cases holds with
  | false => exact retreat_stacks (s := { s with cache := cache }) bindings values places
  | true =>
      show Carries plan table _
      by_cases outside : s.levels = []
      · have none : s.done = [] := by
          rw [← places, outside]
          rfl
        have bottom : σ = .empty := by
          rw [outside] at bindings
          cases bindings
          rfl
        refine .finished ?_ outside (bottom ▸ values)
        show (if s.done.isEmpty then Phase.finished else .retreating) = .finished
        rw [none]
        rfl
      · have some : s.done.isEmpty = false := by
          rw [← places]
          simpa using outside
        refine Bindings.carries bindings ?_ values outside
        show (if s.done.isEmpty then Phase.finished else .retreating) = .retreating
        rw [some]
        rfl

/-- **A step keeps the bindings a stack.** -/
theorem step_stacks (conforms : b.Conforms) (distinct : plan.order.Nodup)
    (slots : plan.SlotsWithin table.size) (orderly : Orderly plan table s)
    (carries : Carries plan table s) :
    Stacks plan table s.held s.cleared (step plan b s) := by
  have places := orderly.places
  have order := orderly.order
  unfold step
  cases carries with
  | finished phase closed values =>
      rw [if_pos phase]
      trivial
  | @descending σ phase bindings values =>
      have held : s.held = s.levels := held_of_ne (by rw [phase]; exact nofun)
      have cleared : s.cleared = table.assign σ := by
        rw [JoinState.cleared, phase]
        exact values
      rw [if_neg (by rw [phase]; exact nofun), held, cleared]
      dsimp only
      cases (b.stops s.world).1 with
      | true => trivial
      | false =>
          simp only [Bool.false_eq_true, if_false, phase]
          cases todo : s.todo with
          | nil =>
              exact complete_stacks (s := { s with
                phase := .descending
                todo := []
                world := (b.stops s.world).2 }) bindings values places
          | cons i todo' =>
              rw [todo] at order
              have planned : i ∈ plan.order := by
                rw [← order]
                exact List.mem_append_right _ List.mem_cons_self
              have new : i ∉ s.done := not_mem_behind distinct order
              exact enterLevel_stacks (s := { s with
                phase := .descending
                todo := i :: todo'
                world := (b.stops s.world).2 }) conforms slots planned new places bindings values
  | @retreating l levels p σ c ts phase top bindings reads within values =>
      have held : s.held = levels := by
        rw [JoinState.held, phase, top]
        rfl
      have released : s.table.release l.binders = table.assign σ := by
        rw [values]
        exact release_candidate within reads
      have cleared : s.cleared = table.assign σ := by
        rw [JoinState.cleared, phase, top]
        exact released
      have done : s.done = l.pattern :: levels.map (·.pattern) := by
        rw [← places, top, List.map_cons]
      have new : l.pattern ∉ levels.map (·.pattern) := by
        rw [done, List.reverse_cons, List.append_assoc] at order
        exact not_mem_behind distinct order
      rw [if_neg (by rw [phase]; exact nofun), held, cleared]
      dsimp only
      cases (b.stops s.world).1 with
      | true => trivial
      | false =>
          simp only [Bool.false_eq_true, if_false, phase, done]
          exact resumeLevel_stacks (s := { s with
            phase := .retreating
            done := l.pattern :: levels.map (·.pattern)
            world := (b.stops s.world).2 }) top new bindings reads within released

theorem Head.carries (conforms : b.Conforms) (distinct : plan.order.Nodup)
    (slots : plan.SlotsWithin table.size) (orderly : Orderly plan table s)
    (carries : Carries plan table s) (head : Head plan b s t) : Carries plan table t := by
  induction head with
  | start => exact carries
  | later before stepped goes ih =>
      have leads := step_stacks (b := b) conforms distinct slots
        (before.orderly distinct orderly) ih
      rw [stepped] at leads
      rcases goes with rfl | ⟨row, rfl⟩
      · exact leads.1
      · exact leads

end JoinState

end GraphPattern
