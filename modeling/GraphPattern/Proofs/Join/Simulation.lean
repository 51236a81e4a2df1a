/-
# A join follows its nested loops

The open levels of a join are the stack of the recursion: each has the substitution under
which it was opened, the candidate that is matched and the candidates that are left.
`Simulates s rows` says that a state is somewhere in the nested loops and that `rows` are
still to come.  One lemma for each move of the machine says that it keeps this
(`examine`, `openLevel`, `advanceLevel`, `retreat`, `complete`), and `step_meets` puts
them together: a step goes on with the same rows, delivers the first of them, is at the
end, or reports what the backend refused.
-/
import GraphPattern.Proofs.Join.NestedLoop

namespace GraphPattern

/-! ## Backends -/

namespace Backend

variable {ω : Type}

/-- Candidates that are given are those of a fixed list for each selector, and agree with
it.  Requests may be refused at any time. -/
structure Honest (b : Backend ω) (lists : Candidates) : Prop where
  candidates_eq : ∀ p w found, (b.candidates p w).1 = .ok found → found = lists p
  selects : ∀ p, ∀ t ∈ lists p, p.selects t = true

/-- What a backend may answer in one step in place of what was asked. -/
inductive Refuses (b : Backend ω) (w : ω) : QueryError → Prop where
  | stopped (h : (b.stops w).1 = true) : b.Refuses w .aborted
  | unopened (p : TripleSelector) (e : MatchError)
      (h : (b.candidates p (b.stops w).2).1 = .error e) : b.Refuses w (.matchFailure e)
  | unmoved (k : Nat) (e : MatchError) (h : (b.advanceFault k (b.stops w).2).1 = some e) :
      b.Refuses w (.matchFailure e)

end Backend

namespace JoinState

variable {ω : Type}

/-! ## The invariant -/

section Invariant

variable (plan : JoinPlan) (table : VariableTable) (lists : Candidates)

/-- A level was opened for a pattern under a substitution and has these candidates left. -/
structure Reads (σ : Substitution) (l : Level) (p : TriplePattern) (ts : List Triple) :
    Prop where
  pattern : plan.patterns[l.pattern]? = some p
  binders : l.binders = p.binders σ
  cursor : l.cursor = .ofList ts
  fits : ∀ t ∈ ts, p.Fits σ t

/-- What the candidates of one level lead to. -/
def branch (todo : List Nat) (p : TriplePattern) (σ : Substitution) (ts : List Triple) :
    List Substitution :=
  tryEach lists (plan.accepts table) (plan.choose todo) p σ ts

/-- The open levels, the innermost first, have led to a substitution, and this is to come
when the search below them is over. -/
inductive Stack : List Level → List Nat → Substitution → List Substitution → Prop where
  | bottom {todo : List Nat} : Stack [] todo .empty []
  | level {l : Level} {levels : List Level} {todo : List Nat} {p : TriplePattern}
      {σ σ' : Substitution} {t : Triple} {ts : List Triple} {rest : List Substitution}
      (below : Stack levels (l.pattern :: todo) σ rest) (reads : Reads plan σ l p (t :: ts))
      (matched : p.match? σ t = some σ') :
      Stack (l :: levels) todo σ' (branch plan table lists todo p σ ts ++ rest)

/-- What is still to come: below the open levels, or from the innermost one on. -/
inductive Ahead (s : JoinState ω) : List Substitution → Prop where
  | descending {σ : Substitution} {rest : List Substitution} (phase : s.phase = .descending)
      (stack : Stack plan table lists s.levels s.todo σ rest)
      (values : s.table = table.assign σ) :
      Ahead s (nestedLoop lists (plan.accepts table) (plan.choose s.todo) σ ++ rest)
  | retreating {l : Level} {levels : List Level} {p : TriplePattern} {σ : Substitution}
      {t : Triple} {ts : List Triple} {rest : List Substitution} (phase : s.phase = .retreating)
      (top : s.levels = l :: levels)
      (stack : Stack plan table lists levels (l.pattern :: s.todo) σ rest)
      (reads : Reads plan σ l p (t :: ts))
      (values : s.table.release l.binders = table.assign σ) :
      Ahead s (branch plan table lists s.todo p σ ts ++ rest)
  | finished (phase : s.phase = .finished) : Ahead s []

/-- A state is somewhere in the nested loops, with these substitutions still to come. -/
structure Simulates (s : JoinState ω) (rows : List Substitution) : Prop where
  places : s.levels.map (·.pattern) = s.done
  order : s.done.reverse ++ s.todo = plan.order
  cache : s.cache.Sound
  ahead : Ahead plan table lists s rows

/-- What a step may come to when these substitutions are still to come. -/
def Meets (refused : QueryError → Prop) (rows : List Substitution) :
    StepResult × JoinState ω → Prop
  | (.running, s) => Simulates plan table lists s rows
  | (.solution row, s) => ∃ σ rest, rows = σ :: rest ∧ row = table.row σ ∧
      Simulates plan table lists s rest
  | (.exhausted, _) => rows = []
  | (.failed e, _) => refused e

end Invariant

variable {plan : JoinPlan} {table : VariableTable} {lists : Candidates} {b : Backend ω}
  {refused : QueryError → Prop} {s : JoinState ω} {σ : Substitution} {rest : List Substitution}

theorem start_simulates (plan : JoinPlan) (table : VariableTable) (lists : Candidates) (w : ω) :
    Simulates plan table lists (start plan table w) (plan.answers table lists) where
  places := rfl
  order := rfl
  cache := .empty
  ahead := by
    have ahead : Ahead plan table lists (start plan table w) (plan.answers table lists ++ []) :=
      .descending rfl .bottom table.reset_eq_assign
    rwa [List.append_nil] at ahead

/-! ## The places of a plan -/

theorem Reads.within (wf : plan.Proper table.size) {l : Level} {p : TriplePattern}
    {ts : List Triple} (h : Reads plan σ l p ts) : p.Within table.size :=
  wf.within p (List.mem_of_getElem? h.pattern)

section Reads

variable {l : Level} {p : TriplePattern} {t : Triple} {ts : List Triple}

theorem Reads.current (h : Reads plan σ l p ts) : l.cursor.current = ts.head? := by
  rw [h.cursor]
  rfl

theorem Reads.moved (h : Reads plan σ l p (t :: ts)) : l.cursor.advance = .ok (.ofList ts) := by
  rw [h.cursor]
  rfl

theorem Reads.advanced (h : Reads plan σ l p (t :: ts)) (number : Option Nat) :
    Reads plan σ ⟨l.pattern, number, .ofList ts, l.binders⟩ p ts where
  pattern := h.pattern
  binders := h.binders
  cursor := rfl
  fits u mem := h.fits u (List.mem_cons_of_mem _ mem)

end Reads

/-- The values that the innermost level has bound can be taken away. -/
theorem release_matched {p : TriplePattern} {σ' : Substitution} {t : Triple}
    (within : p.Within table.size) (fits : p.Fits σ t) (matched : p.match? σ t = some σ') :
    (table.assign σ').release (p.binders σ) = table.assign σ := by
  obtain ⟨υ, -, last, released⟩ := VariableTable.unify_assign within fits
  rw [last σ' matched]
  exact released

theorem not_mem_behind {behind todo order : List Nat} {i : Nat} (distinct : order.Nodup)
    (h : behind.reverse ++ i :: todo = order) : i ∉ behind := by
  rw [← h] at distinct
  obtain ⟨-, -, apart⟩ := List.nodup_append.mp distinct
  exact fun mem => apart i (List.mem_reverse.mpr mem) i List.mem_cons_self rfl

theorem countRound_new {behind : List Nat} {i : Nat} (new : i ∉ behind) (s : JoinState ω) :
    s.countRound i behind = some s := by
  simp [countRound, new]

theorem others_eq_self {levels : List Level} {i : Nat} (h : i ∉ levels.map (·.pattern)) :
    levels.filter (fun l => l.pattern ≠ i) = levels := by
  refine List.filter_eq_self.mpr fun l hl => ?_
  have : l.pattern ≠ i := fun same => h (same ▸ List.mem_map_of_mem hl)
  simpa using this

theorem others_of_top {l : Level} {levels : List Level} (top : s.levels = l :: levels)
    (new : l.pattern ∉ levels.map (·.pattern)) : s.others l.pattern = levels := by
  unfold others
  rw [top]
  simpa using others_eq_self new

/-! ## Going back -/

theorem Stack.retreat (wf : plan.Proper table.size) (phase : s.phase = .retreating)
    (stack : Stack plan table lists s.levels s.todo σ rest) (values : s.table = table.assign σ)
    (inside : s.levels ≠ []) : Ahead plan table lists s rest := by
  generalize hl : s.levels = levels at stack inside
  cases stack with
  | bottom => exact absurd rfl inside
  | level below reads matched =>
      refine .retreating phase hl below reads ?_
      rw [values, reads.binders]
      exact release_matched (reads.within wf) (reads.fits _ List.mem_cons_self) matched

theorem Stack.eq_nil {todo : List Nat} (stack : Stack plan table lists [] todo σ rest) :
    rest = [] := by
  cases stack
  rfl

theorem retreat_meets (wf : plan.Proper table.size) (places : s.levels.map (·.pattern) = s.done)
    (order : s.done.reverse ++ s.todo = plan.order) (cache : s.cache.Sound)
    (stack : Stack plan table lists s.levels s.todo σ rest)
    (values : s.table = table.assign σ) : Meets plan table lists refused rest s.retreat := by
  unfold retreat
  by_cases outside : s.levels = []
  · have : s.done = [] := by rw [← places, outside]; rfl
    rw [this]
    rw [outside] at stack
    exact stack.eq_nil
  · have inside : s.done.isEmpty = false := by
      rw [← places]
      simpa using outside
    rw [inside]
    exact ⟨places, order, cache,
      Stack.retreat (s := { s with phase := .retreating }) wf rfl stack values outside⟩

/-! ## Looking at a candidate -/

theorem leave_meets (wf : plan.Proper table.size) {l : Level} {levels : List Level}
    {behind todo : List Nat} {p : TriplePattern} (kept : s.others l.pattern = levels)
    (places : levels.map (·.pattern) = behind)
    (order : behind.reverse ++ l.pattern :: todo = plan.order) (cache : s.cache.Sound)
    (stack : Stack plan table lists levels (l.pattern :: todo) σ rest)
    (binders : l.binders = p.binders σ) (values : s.table = table.assign σ) :
    Meets plan table lists refused rest (s.leave b l behind todo) := by
  have new : l.pattern ∉ behind := not_mem_behind wf.distinct order
  unfold leave
  dsimp only
  rw [countRound_new new]
  dsimp only
  refine retreat_meets wf ?_ ?_ ?_ ?_ ?_ (σ := σ)
  · simpa [kept] using places
  · simpa using order
  · rw [closeLevel_cache]
    exact cache
  · simpa [kept] using stack
  · rw [closeLevel_table]
    show s.table.release l.binders = _
    rw [values, binders, VariableTable.release_binders]

/-- Looking at the candidates of a level: what they lead to and the rest are to come. -/
theorem examine_meets (wf : plan.Proper table.size) {l : Level} {levels : List Level}
    {behind todo : List Nat} {p : TriplePattern} {ts : List Triple}
    (kept : s.others l.pattern = levels) (places : levels.map (·.pattern) = behind)
    (order : behind.reverse ++ l.pattern :: todo = plan.order) (cache : s.cache.Sound)
    (stack : Stack plan table lists levels (l.pattern :: todo) σ rest)
    (reads : Reads plan σ l p ts) (values : s.table = table.assign σ) :
    Meets plan table lists refused (branch plan table lists todo p σ ts ++ rest)
      (s.examine b l behind todo) := by
  have kept' : (s.tell b.reads l.number).others l.pattern = levels := by
    unfold others
    rw [tell_levels]
    exact kept
  have cache' : (s.tell b.reads l.number).cache.Sound := by
    rw [tell_cache]
    exact cache
  unfold examine
  dsimp only
  cases ts with
  | nil =>
      have none : l.cursor.current = none := reads.current
      rw [none]
      exact leave_meets wf kept' places order cache' stack reads.binders
        (by rw [tell_table]; exact values)
  | cons t ts =>
      have some : l.cursor.current = some t := reads.current
      obtain ⟨υ, unified, last, released⟩ :=
        VariableTable.unify_assign (reads.within wf) (reads.fits t List.mem_cons_self)
      rw [some]
      simp only [tell_table, values, reads.binders, unified]
      have places' : (l :: (s.tell b.reads l.number).others l.pattern).map (·.pattern) =
          l.pattern :: behind := by
        rw [kept', List.map_cons, places]
      have order' : (l.pattern :: behind).reverse ++ todo = plan.order := by
        rw [List.reverse_cons, List.append_assoc]
        exact order
      cases matched : p.match? σ t with
      | some σ' =>
          -- the candidate matches: the next pattern is looked at below it
          obtain rfl := last σ' matched
          have rows : branch plan table lists todo p σ (t :: ts) =
              nestedLoop lists (plan.accepts table) (plan.choose todo) σ' ++
                branch plan table lists todo p σ ts := tryEach_matched matched
          rw [rows, List.append_assoc]
          exact ⟨places', order', cache',
            .descending rfl (.level (kept'.symm ▸ stack) reads matched) rfl⟩
      | none =>
          -- it does not: the level is kept and what it bound is taken away
          have rows : branch plan table lists todo p σ (t :: ts) =
              branch plan table lists todo p σ ts := tryEach_unmatched matched
          rw [rows]
          refine ⟨places', order', cache',
            .retreating rfl rfl (kept'.symm ▸ stack) reads ?_⟩
          show ((table.assign υ).release l.binders).release l.binders = _
          rw [reads.binders, released, VariableTable.release_binders]

/-! ## Opening a level and moving it on -/

theorem openLevel_meets (honest : b.Honest lists) (wf : plan.Proper table.size) {i : Nat}
    {behind todo : List Nat} {p : TriplePattern} (found : plan.patterns[i]? = some p)
    (closed : i ∉ s.levels.map (·.pattern)) (places : s.levels.map (·.pattern) = behind)
    (order : behind.reverse ++ i :: todo = plan.order) (cache : s.cache.Sound)
    (stack : Stack plan table lists s.levels (i :: todo) σ rest)
    (values : s.table = table.assign σ)
    (refuses : ∀ sel e, (b.candidates sel s.world).1 = .error e → refused (.matchFailure e)) :
    Meets plan table lists refused
      (branch plan table lists todo p σ (p.candidates lists σ) ++ rest)
      (openLevel plan b s i behind todo) := by
  have within := wf.within p (List.mem_of_getElem? found)
  obtain ⟨v, view, binders, selector⟩ := TriplePattern.viewUnder_assign within σ
  unfold openLevel
  rw [found]
  dsimp only
  rw [values, view]
  dsimp only
  rw [selector, binders]
  unfold TriplePattern.candidates
  cases asked : p.selector? σ with
  | none =>
      exact examine_meets wf (others_eq_self closed) places order cache stack
        ⟨found, rfl, rfl, fun _ h => nomatch h⟩ values
  | some sel =>
      dsimp only
      unfold openCursor
      dsimp only
      cases answer : (b.candidates sel s.world).1 with
      | error e => exact refuses sel e answer
      | ok triples =>
          have same := honest.candidates_eq sel s.world triples answer
          have fits : ∀ t ∈ lists sel, p.Fits σ t :=
            fun t ht => TriplePattern.fits_of_selects asked (honest.selects sel t ht)
          exact examine_meets wf (others_eq_self closed) places order cache stack
            ⟨found, rfl, congrArg Cursor.ofList same, fits⟩ values

theorem advanceLevel_meets (wf : plan.Proper table.size) {l : Level} {levels : List Level}
    {behind : List Nat} {p : TriplePattern} {t : Triple} {ts : List Triple}
    (top : s.levels = l :: levels) (places : levels.map (·.pattern) = behind)
    (order : behind.reverse ++ l.pattern :: s.todo = plan.order) (cache : s.cache.Sound)
    (stack : Stack plan table lists levels (l.pattern :: s.todo) σ rest)
    (reads : Reads plan σ l p (t :: ts)) (values : s.table.release l.binders = table.assign σ)
    (refuses : ∀ k e, (b.advanceFault k s.world).1 = some e → refused (.matchFailure e)) :
    Meets plan table lists refused (branch plan table lists s.todo p σ ts ++ rest)
      (advanceLevel b s l behind) := by
  have new : l.pattern ∉ levels.map (·.pattern) :=
    places ▸ not_mem_behind wf.distinct order
  have kept : s.others l.pattern = levels := others_of_top top new
  unfold advanceLevel advanceCursor
  cases l.number with
  | none =>
      dsimp only
      rw [reads.moved]
      exact examine_meets wf kept places order cache stack (reads.advanced _) values
  | some k =>
      dsimp only
      cases fault : (b.advanceFault k (s.release l).world).1 with
      | some e => exact refuses k e fault
      | none =>
          dsimp only
          rw [reads.moved]
          exact examine_meets wf kept places order cache stack (reads.advanced _) values

theorem level?_eq_none {i : Nat} (h : i ∉ s.levels.map (·.pattern)) : s.level? i = none := by
  refine List.find?_eq_none.mpr fun l hl => ?_
  have : l.pattern ≠ i := fun same => h (same ▸ List.mem_map_of_mem hl)
  simpa using this

theorem level?_top {l : Level} {levels : List Level} (top : s.levels = l :: levels) :
    s.level? l.pattern = some l := by
  simp [level?, top]

theorem enterLevel_meets (honest : b.Honest lists) (wf : plan.Proper table.size) {i : Nat}
    {todo : List Nat} (places : s.levels.map (·.pattern) = s.done)
    (order : s.done.reverse ++ i :: todo = plan.order) (cache : s.cache.Sound)
    (stack : Stack plan table lists s.levels (i :: todo) σ rest)
    (values : s.table = table.assign σ)
    (refuses : ∀ sel e, (b.candidates sel s.world).1 = .error e → refused (.matchFailure e)) :
    Meets plan table lists refused
      (nestedLoop lists (plan.accepts table) (plan.choose (i :: todo)) σ ++ rest)
      (enterLevel plan b s i todo) := by
  have planned : i ∈ plan.order := by
    rw [← order]
    exact List.mem_append_right _ List.mem_cons_self
  have found := List.getElem?_eq_getElem (wf.inRange i planned)
  have closed : i ∉ s.levels.map (·.pattern) := places ▸ not_mem_behind wf.distinct order
  unfold enterLevel
  rw [level?_eq_none closed, JoinPlan.choose_cons found, nestedLoop_cons]
  exact openLevel_meets honest wf found closed places order cache stack values refuses

theorem resumeLevel_meets (wf : plan.Proper table.size) {l : Level} {levels : List Level}
    {behind : List Nat} {p : TriplePattern} {t : Triple} {ts : List Triple}
    (top : s.levels = l :: levels) (places : levels.map (·.pattern) = behind)
    (order : behind.reverse ++ l.pattern :: s.todo = plan.order) (cache : s.cache.Sound)
    (stack : Stack plan table lists levels (l.pattern :: s.todo) σ rest)
    (reads : Reads plan σ l p (t :: ts)) (values : s.table.release l.binders = table.assign σ)
    (refuses : ∀ k e, (b.advanceFault k s.world).1 = some e → refused (.matchFailure e)) :
    Meets plan table lists refused (branch plan table lists s.todo p σ ts ++ rest)
      (resumeLevel plan b s l.pattern behind) := by
  unfold resumeLevel
  rw [level?_top top]
  exact advanceLevel_meets wf top places order cache stack reads values refuses

/-! ## The end of the plan -/

theorem judge_cases (plan : JoinPlan) (s : JoinState ω) :
    ∃ holds cache, s.judge plan = (holds, { s with cache := cache }) := by
  unfold judge
  cases plan.constraint with
  | none => exact ⟨true, s.cache, rfl⟩
  | some e => exact ⟨_, _, rfl⟩

/-- A constraint is judged by the values in the table, whatever is remembered. -/
theorem judge_eq (plan : JoinPlan) {s : JoinState ω} (sound : s.cache.Sound)
    (values : s.table = table.assign σ) :
    ∃ cache, RegexCache.Sound cache ∧
      s.judge plan = (plan.accepts table σ, { s with cache := cache }) := by
  unfold judge JoinPlan.accepts
  cases plan.constraint with
  | none => exact ⟨s.cache, sound, rfl⟩
  | some e =>
      obtain ⟨same, sound'⟩ := e.holds_eq s.table sound
      refine ⟨_, sound', ?_⟩
      dsimp only
      rw [← values, ← same]
      rfl

theorem complete_meets (wf : plan.Proper table.size)
    (places : s.levels.map (·.pattern) = s.done) (order : s.done.reverse ++ s.todo = plan.order)
    (cache : s.cache.Sound) (stack : Stack plan table lists s.levels s.todo σ rest)
    (values : s.table = table.assign σ) :
    Meets plan table lists refused ((if plan.accepts table σ then [σ] else []) ++ rest)
      (complete plan s) := by
  obtain ⟨cache', sound, judged⟩ := judge_eq plan cache values
  unfold complete
  rw [judged]
  cases plan.accepts table σ with
  | false => exact retreat_meets (s := { s with cache := cache' }) wf places order sound stack values
  | true =>
      refine ⟨σ, rest, rfl, ?_, places, order, sound, ?_⟩
      · show Solution.ofTable s.table = _
        rw [values, VariableTable.ofTable_assign]
      · by_cases outside : s.levels = []
        · have : s.done = [] := by rw [← places, outside]; rfl
          rw [outside] at stack
          rw [stack.eq_nil]
          exact .finished (by simp [this])
        · have inside : s.done.isEmpty = false := by
            rw [← places]
            simpa using outside
          refine Stack.retreat wf ?_ stack values outside
          simp [inside]

/-! ## One step -/

/-- **A step keeps a join in its nested loops.** -/
theorem step_meets (honest : b.Honest lists) (wf : plan.Proper table.size)
    {rows : List Substitution} (h : Simulates plan table lists s rows) :
    Meets plan table lists (b.Refuses s.world) rows (step plan b s) := by
  obtain ⟨places, order, cache, ahead⟩ := h
  unfold step
  cases ahead with
  | finished phase =>
      rw [if_pos phase]
      exact rfl
  | descending phase stack values =>
      rw [if_neg (by rw [phase]; exact nofun)]
      dsimp only
      cases stops : (b.stops s.world).1 with
      | true => exact .stopped stops
      | false =>
          simp only [Bool.false_eq_true, if_false, phase]
          cases todo : s.todo with
          | nil =>
              rw [todo] at stack order
              exact complete_meets (s := { s with
                phase := .descending
                todo := []
                world := (b.stops s.world).2 }) wf places order cache stack values
          | cons i todo' =>
              rw [todo] at stack order
              exact enterLevel_meets (s := { s with
                phase := .descending
                todo := i :: todo'
                world := (b.stops s.world).2 }) honest wf places order cache stack values
                fun sel e h => .unopened sel e h
  | @retreating l levels _ _ _ _ _ phase top stack reads values =>
      rw [if_neg (by rw [phase]; exact nofun)]
      dsimp only
      cases stops : (b.stops s.world).1 with
      | true => exact .stopped stops
      | false =>
          have done : s.done = l.pattern :: levels.map (·.pattern) := by
            rw [← places, top, List.map_cons]
          simp only [Bool.false_eq_true, if_false, phase, done]
          rw [done, List.reverse_cons, List.append_assoc] at order
          exact resumeLevel_meets (s := { s with
            phase := .retreating
            done := l.pattern :: levels.map (·.pattern)
            world := (b.stops s.world).2 }) wf top rfl order cache stack reads values
            fun k e h => .unmoved k e h

end JoinState

end GraphPattern
