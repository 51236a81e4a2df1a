/-
# The bindings of a join are a stack

A join has one table, in which its levels bind and release their variables one by one.  At
every head of a run a variable that has a value is recorded by one open level; the levels that
hold a candidate have bound all that they record, and the innermost one may have bound it or
not when the search goes back to it (`BindingStack`).  `binding_stack` says this of runs, and
that a candidate in contradiction leaves nothing behind.
-/
import Mathlib.Data.List.Pairwise
import GraphPattern.Proofs.Join.Bindings

namespace GraphPattern

/-- A variable stands in one of the patterns with these numbers. -/
def JoinPlan.Occurs (plan : JoinPlan) (indices : List Nat) (id : VarId) : Prop :=
  ∃ i ∈ indices, ∃ p, plan.patterns[i]? = some p ∧ .slot id ∈ p.terms

namespace JoinState

variable {ω : Type} {plan : JoinPlan} {table : VariableTable} {b : Backend ω}
  {s t : JoinState ω} {σ : Substitution}

/-- What the table of a join has to do with its open levels.  They are those of the first
places of the plan, and each of them holds a candidate, except for the innermost one when the
search goes back to it. -/
structure BindingStack (plan : JoinPlan) (s : JoinState ω) : Prop where
  places : (s.levels.map (·.pattern)).reverse = plan.order.take s.levels.length
  /-- A variable with a value is recorded by one level. -/
  recorded : ∀ id u, s.table.value id = some u →
    ∃ l ∈ s.levels, l.Records id ∧ ∀ m ∈ s.levels, m.Records id → m = l
  /-- No two levels record the same variable. -/
  apart : s.levels.Pairwise fun l m => ∀ id, l.Records id → ¬ m.Records id
  /-- What is recorded by a level that holds a candidate is bound. -/
  bound : ∀ l ∈ s.held, ∀ id, l.Records id → (s.table.value id).isSome
  /-- Its pattern has become the candidate. -/
  candidates : ∀ l ∈ s.held, ∃ p t, plan.patterns[l.pattern]? = some p ∧
    l.cursor.current = some t ∧ p.instantiate? s.table.value = some t
  /-- The level that the search goes back to has bound all that it records or nothing. -/
  pending : s.phase = .retreating → ∃ l, s.levels = l :: s.held ∧
    ((∀ id, l.Records id → (s.table.value id).isSome) ∨
      ∀ id, l.Records id → s.table.value id = none)
  /-- What stands only in patterns without an open level has no value. -/
  confined : ∀ id, ¬ plan.Occurs (plan.order.take s.levels.length) id → s.table.value id = none
  /-- When all planned patterns have candidates, just their variables have values. -/
  complete : s.held.length = plan.order.length →
    ∀ id, (s.table.value id).isSome ↔ plan.Occurs plan.order id

theorem recorder_unique {levels : List Level} {l m : Level} {id : VarId}
    (apart : levels.Pairwise fun l m => ∀ id, l.Records id → ¬ m.Records id) (hl : l ∈ levels)
    (hm : m ∈ levels) (own : l.Records id) (own' : m.Records id) : l = m := by
  have symmetric : Std.Symm fun l m : Level => ∀ id, l.Records id → ¬ m.Records id :=
    ⟨fun _ _ h id first second => h id second first⟩
  refine Classical.byContradiction fun other => ?_
  exact apart.forall hl hm other id own own'

/-- It is enough to know which levels have bound what they record: those that hold a candidate,
and maybe the one that the search goes back to. -/
theorem BindingStack.of_bindings {levels : List Level} {n : Nat} (orderly : Orderly plan table s)
    (bindings : Bindings plan n levels σ) (value : s.table.value = σ)
    (inside : ∀ l ∈ levels, l ∈ s.levels) (holding : ∀ l ∈ s.held, l ∈ levels)
    (apart : s.levels.Pairwise fun l m => ∀ id, l.Records id → ¬ m.Records id)
    (pending : s.phase = .retreating → ∃ l, s.levels = l :: s.held ∧
      ((∀ id, l.Records id → (σ id).isSome) ∨ ∀ id, l.Records id → σ id = none)) :
    BindingStack plan s := by
  subst value
  have places : (s.levels.map (·.pattern)).reverse = plan.order.take s.levels.length := by
    have length : s.done.reverse.length = s.levels.length := by
      rw [List.length_reverse, ← orderly.places, List.length_map]
    rw [← orderly.order, ← length, List.take_left, orderly.places]
  have planned : ∀ l ∈ s.levels, l.pattern ∈ plan.order.take s.levels.length := by
    intro l mem
    rw [← places]
    exact List.mem_reverse.mpr (List.mem_map_of_mem mem)
  have confined : ∀ id, (s.table.value id).isSome →
      plan.Occurs (plan.order.take s.levels.length) id := by
    intro id value
    obtain ⟨l, mem, p, found, -, occurs⟩ := bindings.occurs value
    exact ⟨l.pattern, planned l (inside l mem), p, found, occurs⟩
  refine ⟨places, ?_, apart, ?_, ?_, pending, ?_, ?_⟩
  · intro id u value
    obtain ⟨l, mem, own⟩ := bindings.recorded.mp (Option.isSome_iff_exists.mpr ⟨u, value⟩)
    refine ⟨l, inside l mem, own, ?_⟩
    intro m mem' own'
    exact recorder_unique apart mem' (inside l mem) own' own
  · intro l mem id own
    exact bindings.recorded.mpr ⟨l, holding l mem, own⟩
  · intro l mem
    obtain ⟨p, t, found, current, stands⟩ := bindings.stands l (holding l mem)
    exact ⟨p, t, found, current, TriplePattern.stands_iff.mp stands⟩
  · intro id out
    refine Option.not_isSome_iff_eq_none.mp fun value => ?_
    exact out (confined id value)
  · intro all id
    -- the search does not go back, for then one more level would be open than is planned
    have length : s.levels.length ≤ plan.order.length := by
      have same := congrArg List.length places
      rw [List.length_reverse, List.length_map, List.length_take] at same
      omega
    have open' : s.held = s.levels := by
      by_cases phase : s.phase = .retreating
      · obtain ⟨l, top, -⟩ := pending phase
        rw [top, List.length_cons] at length
        omega
      · exact held_of_ne phase
    rw [open'] at all holding
    rw [all, List.take_length] at places confined
    refine ⟨confined id, ?_⟩
    rintro ⟨i, planned', p, found, occurs⟩
    rw [← places, List.mem_reverse] at planned'
    obtain ⟨l, mem, rfl⟩ := List.mem_map.mp planned'
    obtain ⟨q, t, found', -, stands⟩ := bindings.stands l (holding l mem)
    obtain rfl : p = q := Option.some.inj (found.symm.trans found')
    exact Option.isSome_iff_exists.mpr (stands.value occurs)

theorem BindingStack.of_held (orderly : Orderly plan table s) (phase : s.phase ≠ .retreating)
    (bindings : Bindings plan table.size s.levels σ) (values : s.table = table.assign σ) :
    BindingStack plan s := by
  refine .of_bindings orderly bindings (values ▸ bindings.value_eq) (fun _ mem => mem) ?_
    bindings.pairwise ?_
  · rw [held_of_ne phase]
    exact fun _ mem => mem
  · intro back
    exact absurd back phase

theorem Carries.bindingStack (orderly : Orderly plan table s) (h : Carries plan table s) :
    BindingStack plan s := by
  cases h with
  | descending phase bindings values =>
      exact .of_held orderly (by rw [phase]; exact nofun) bindings values
  | finished phase closed values =>
      have bindings : Bindings plan table.size s.levels .empty := closed.symm ▸ .bottom
      exact .of_held orderly (by rw [phase]; exact nofun) bindings values
  | @retreating l levels p σ c ts phase top bindings reads within values =>
      have held : s.held = levels := by
        rw [JoinState.held, phase, top]
        rfl
      have apart : s.levels.Pairwise fun l m => ∀ id, l.Records id → ¬ m.Records id :=
        top.symm ▸ .cons (bindings.apart reads.binders) bindings.pairwise
      cases matched : p.match? σ c with
      | some σ' =>
          have all : Bindings plan table.size (l :: levels) σ' :=
            .level bindings reads within matched
          rw [matched] at values
          refine .of_bindings orderly all (values ▸ all.value_eq) ?_ ?_ apart fun _ => ?_
          · rw [top]
            exact fun _ mem => mem
          · rw [held]
            exact fun _ mem => List.mem_cons_of_mem l mem
          · refine ⟨l, by rw [held, top], .inl fun id own => ?_⟩
            exact all.recorded.mpr ⟨l, List.mem_cons_self, own⟩
      | none =>
          rw [matched] at values
          refine .of_bindings orderly bindings (values ▸ bindings.value_eq) ?_ ?_ apart fun _ => ?_
          · rw [top]
            exact fun _ mem => List.mem_cons_of_mem l mem
          · rw [held]
            exact fun _ mem => mem
          · refine ⟨l, by rw [held, top], .inr fun id own => ?_⟩
            rw [Level.Records, reads.binders] at own
            exact (TriplePattern.mem_binders.mp own).2

/-- **The bindings of a join are a stack.**  At every head of a run the variables with a value
are recorded by one open level each, the patterns of the levels that hold a candidate have become
their candidates, what stands only in patterns further on has no value, and at the end of the
plan just the variables of its patterns have one.  A step that finds a candidate in contradiction
leaves the table as it was without it. -/
theorem binding_stack (conforms : b.Conforms) (distinct : plan.order.Nodup)
    (slots : plan.SlotsWithin table.size) {w : ω} (head : Head plan b (start plan table w) t) :
    BindingStack plan t ∧ ∀ u, step plan b t = (.running, u) →
      ∀ l, u.levels = l :: t.held → Tried t.cleared l u := by
  have orderly : Orderly plan table t := head.orderly distinct (start_orderly plan table w)
  have carries : Carries plan table t :=
    Head.carries conforms distinct slots (start_orderly plan table w) (start_carries plan table w)
      head
  refine ⟨carries.bindingStack orderly, ?_⟩
  intro u stepped
  have leads := step_stacks (b := b) conforms distinct slots orderly carries
  rw [stepped] at leads
  exact leads.2

/-- A step of a chain that leads back to where it starts. -/
def loopPlan : JoinPlan where
  patterns := [⟨.slot ⟨0⟩, .term (.iri .xsdString), .slot ⟨0⟩⟩]
  order := [0]
  constraint := none

/-- The chain does not begin with a loop: its first step is a contradiction, which is found when
the variable is bound, and the variable has no value after it. -/
theorem loop_contradicted :
    let b := Backend.ofSource chainStore.source .none
    let s := start loopPlan chainTable ⟨false, 0, 0⟩
    let u := (step loopPlan b s).2
    b.Conforms ∧ loopPlan.order.Nodup ∧ loopPlan.SlotsWithin chainTable.size ∧
      Head loopPlan b s u ∧ BindingStack loopPlan u ∧ u.phase = .retreating ∧
      u.table = s.table ∧ ∃ l, u.levels = [l] ∧ l.Records ⟨0⟩ := by
  intro b s u
  have conforms : b.Conforms :=
    (Backend.ofSource_honest (fun _ => rfl) chain_selects .none).conforms
  have distinct : loopPlan.order.Nodup := by decide
  have slots : loopPlan.SlotsWithin chainTable.size := by
    intro i planned p found id occurs
    obtain rfl : i = 0 := List.mem_singleton.mp planned
    obtain rfl := Option.some.inj found
    have same : id = ⟨0⟩ := by simpa [TriplePattern.terms] using occurs
    rw [same]
    decide
  have runs : (step loopPlan b s).1 = .running := by rfl
  have stepped : step loopPlan b s = (.running, u) := Prod.ext runs rfl
  have head : Head loopPlan b s u := .later .start stepped (.inl rfl)
  have levels : u.levels.map (fun l => l.binders.map (·.id)) = [[⟨0⟩, ⟨0⟩]] := by decide +kernel
  have phase : u.phase = .retreating := by decide +kernel
  obtain ⟨l, none, top, records, rest⟩ := List.map_eq_cons_iff.mp levels
  obtain rfl := List.map_eq_nil_iff.mp rest
  have first : Head loopPlan b s s := .start
  have tried := (binding_stack conforms distinct slots first).2 u stepped l top
  have same : u.table = s.table := by
    cases tried with
    | bound _ _ down _ =>
        rw [phase] at down
        cases down
    | contradicted _ _ _ values => exact values
  refine ⟨conforms, distinct, slots, head, (binding_stack conforms distinct slots head).1, phase,
    same, l, top, ?_⟩
  rw [Level.Records, records]
  decide

end JoinState

end GraphPattern
