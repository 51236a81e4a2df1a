/-
# What a query means

`QueryState.IsAnswer` says what an answer of a query is in terms of its own names: values
for the names in the patterns under which every pattern is a stored triple and every
constraint is true.  Neither the slots of the query nor its plan occur in it.  A prepared
query delivers one row for each such answer (`execute_answers`): the slots of its table
stand for names, so that answers by slots and answers by names are the same in both
directions.
-/
import GraphPattern.Proofs.Constraint.Agreement
import GraphPattern.Proofs.Join.Answers
import GraphPattern.Proofs.Query.Compile
import GraphPattern.Proofs.Query.Names

namespace GraphPattern

/-! ## The truth of a constraint -/

namespace Expression

/-- The table that the names of a constraint make. -/
def ownTable (e : Expression) : VariableTable :=
  (Assignment.assignConstraints .empty [e]).state

/-- Whether a constraint is true under values for names: it is evaluated in the table of
its own names. -/
def trueFor (ρ : Valuation) (e : Expression) : Bool :=
  (e.map e.ownTable.slotted).accepts (e.ownTable.assign (e.ownTable.places ρ))

theorem ownTable_spec (e : Expression) :
    e.ownTable.Regular ∧ ∀ t ∈ e.leaves, e.ownTable.Covers t := by
  have visits := Assignment.assignConstraints_visits .empty [e]
  have passed := visits.failure.mpr fun _ _ => trivial
  refine ⟨visits.good, fun t ht => visits.covers passed t ?_⟩
  simpa using ht

theorem accepts_slotted {T : VariableTable} (regular : T.Regular) {e : Expression}
    (plain : ∀ t ∈ e.leaves, t.Plain) (covers : ∀ t ∈ e.leaves, T.Covers t) (σ : Substitution) :
    (e.map T.slotted).accepts (T.assign σ) = e.trueFor (T.names σ) := by
  obtain ⟨regular', covers'⟩ := e.ownTable_spec
  refine accepts_agree fun t ht => ?_
  cases plain t ht with
  | term u => exact .term u
  | named name =>
      obtain ⟨i, found⟩ := Option.isSome_iff_exists.mp (covers _ ht name rfl)
      obtain ⟨j, found'⟩ := Option.isSome_iff_exists.mp (covers' _ ht name rfl)
      rw [VariableTable.slotted_named found, VariableTable.slotted_named found']
      refine .slot ?_
      rw [VariableTable.value_assign _ _ (regular.lt_size found),
        VariableTable.value_assign _ _ (regular'.lt_size found'),
        regular'.places_of_find? found', VariableTable.names_of_find? found]

end Expression

theorem JoinPlan.accepts_conjunction {plan : JoinPlan} {es : List Expression}
    (h : plan.constraint = QueryState.conjunction es) (T : VariableTable) (σ : Substitution) :
    plan.accepts T σ = es.all fun e => e.accepts (T.assign σ) := by
  unfold JoinPlan.accepts
  rw [h]
  cases es with
  | nil => rfl
  | cons e es => exact Expression.accepts_foldl_both (T.assign σ) e es

/-! ## Answers by names -/

namespace QueryState

/-- Values for the names of a query are an answer of it over some triples. -/
structure IsAnswer (s : QueryState) (triples : List Triple) (ρ : Valuation) : Prop where
  domain : ∀ name, (ρ name).isSome ↔ ∃ p ∈ s.patterns, .named name ∈ p.terms
  stored : ∀ p ∈ s.patterns, ∃ t ∈ triples, p.triple? (PatternTerm.denotes ρ) = some t
  accepted : ∀ e ∈ s.constraints, e.trueFor ρ = true

/-- What an execution of a query starts from. -/
def joinPlan (s : QueryState) : JoinPlan := ⟨s.patterns, s.order, s.constraint⟩

section Planned

variable {s s' : QueryState} {a : Assignment} (plain : ∀ t ∈ s.occurrences, t.Plain)
  (planned : s.Planned a s')

include plain planned

theorem Planned.pattern {p : TriplePattern} (h : p ∈ s.patterns) {t : PatternTerm}
    (ht : t ∈ p.terms) : t.Plain ∧ a.table.Covers t := by
  have mem : t ∈ s.patterns.flatMap TriplePattern.terms := List.mem_flatMap.mpr ⟨p, h, ht⟩
  exact ⟨plain t (List.mem_append_left _ mem), planned.assigns.covers_patterns t mem⟩

theorem Planned.constraintLeaf {e : Expression} (h : e ∈ s.constraints) {t : PatternTerm}
    (ht : t ∈ e.leaves) : t.Plain ∧ a.table.Covers t := by
  have mem : t ∈ s.constraints.flatMap Expression.leaves := List.mem_flatMap.mpr ⟨e, h, ht⟩
  exact ⟨plain t (List.mem_append_right _ mem), planned.assigns.covers_constraints t mem⟩

omit plain in
theorem Planned.patterns_eq :
    s'.joinPlan.patterns = s.patterns.map fun p => p.map a.table.slotted :=
  planned.patterns.trans planned.assigns.patterns_eq

theorem Planned.within : ∀ p ∈ s'.joinPlan.patterns, p.Within a.table.size := by
  intro p hp pos
  rw [planned.patterns_eq] at hp
  obtain ⟨q, hq, rfl⟩ := List.mem_map.mp hp
  obtain ⟨plain', covers⟩ := planned.pattern plain hq (q.term_mem pos)
  rw [TriplePattern.term_map]
  exact VariableTable.within_slotted planned.assigns.regular plain' covers

theorem Planned.accepts_iff (σ : Substitution) : s'.joinPlan.accepts a.table σ = true ↔
    ∀ e ∈ s.constraints, e.trueFor (a.table.names σ) = true := by
  have joined : s'.joinPlan.constraint = conjunction a.constraints := planned.constraint
  rw [JoinPlan.accepts_conjunction joined, planned.assigns.constraints_eq, List.all_map,
    List.all_eq_true]
  refine forall_congr' fun e => forall_congr' fun he => ?_
  have leaf := fun t (ht : t ∈ e.leaves) => planned.constraintLeaf plain he ht
  show (e.map a.table.slotted).accepts (a.table.assign σ) = true ↔ _
  rw [Expression.accepts_slotted planned.assigns.regular (fun t ht => (leaf t ht).1)
    (fun t ht => (leaf t ht).2)]

omit plain in
theorem Planned.joinPlan_order :
    s'.joinPlan.order = s.config.ordering.plan s'.joinPlan.patterns := by
  have patterns : s'.joinPlan.patterns = a.patterns := planned.patterns
  rw [patterns]
  exact planned.order

omit plain in
theorem Planned.order_perm :
    s'.joinPlan.order.Perm (List.range s'.joinPlan.patterns.length) := by
  rw [planned.joinPlan_order]
  exact PlanStrategy.plan_perm _ _

theorem Planned.slot_occurs {id : VarId} :
    (∃ p ∈ s'.joinPlan.patterns, .slot id ∈ p.terms) ↔
      ∃ name, a.table.find? name = some id ∧ ∃ p ∈ s.patterns, .named name ∈ p.terms := by
  rw [planned.patterns_eq]
  constructor
  · rintro ⟨p, hp, mem⟩
    obtain ⟨q, hq, rfl⟩ := List.mem_map.mp hp
    obtain ⟨t, ht, same⟩ := List.mem_map.mp (TriplePattern.terms_map _ q ▸ mem)
    obtain ⟨plain', -⟩ := planned.pattern plain hq ht
    obtain ⟨name, rfl, found⟩ := VariableTable.slotted_eq_slot plain' same
    exact ⟨name, found, q, hq, ht⟩
  · rintro ⟨name, found, p, hp, mem⟩
    refine ⟨_, List.mem_map_of_mem hp, ?_⟩
    rw [TriplePattern.terms_map, ← VariableTable.slotted_named found]
    exact List.mem_map_of_mem mem

/-- A pattern with slots stands for the triple that it means by names. -/
theorem Planned.instantiate?_eq {p : TriplePattern} (h : p ∈ s.patterns) (σ : Substitution) :
    (p.map a.table.slotted).instantiate? σ =
      p.triple? (PatternTerm.denotes (a.table.names σ)) := by
  have at' : ∀ t ∈ p.terms, (a.table.slotted t).under σ = t.denotes (a.table.names σ) := by
    intro t ht
    obtain ⟨plain', covers⟩ := planned.pattern plain h ht
    exact VariableTable.under_slotted plain' covers σ
  simp only [TriplePattern.instantiate?, TriplePattern.triple?, TriplePattern.map,
    at' p.subject (p.term_mem .subject), at' p.predicate (p.term_mem .predicate),
    at' p.object (p.term_mem .object)]

/-- **Answers by slots are answers by names.** -/
theorem Planned.isAnswer_iff {store : Store} {σ : Substitution} :
    s'.joinPlan.IsAnswer a.table store σ ↔
      a.table.Supports σ ∧ s.IsAnswer store.triples (a.table.names σ) := by
  have regular := planned.assigns.regular
  have stored : (∀ p ∈ s'.joinPlan.patterns, ∃ t ∈ store.triples, p.instantiate? σ = some t) ↔
      ∀ p ∈ s.patterns, ∃ t ∈ store.triples,
        p.triple? (PatternTerm.denotes (a.table.names σ)) = some t := by
    rw [planned.patterns_eq, List.forall_mem_map]
    refine forall_congr' fun p => forall_congr' fun hp => ?_
    rw [planned.instantiate?_eq plain hp]
  constructor
  · intro answer
    refine ⟨fun id value => ?_, fun name => ?_, stored.mp answer.stored,
      (planned.accepts_iff plain σ).mp answer.accepted⟩
    · obtain ⟨name, found, -⟩ := (planned.slot_occurs plain).mp ((answer.domain id).mp value)
      exact ⟨name, found⟩
    · cases found : a.table.find? name with
      | some id =>
          rw [VariableTable.names_of_find? found, answer.domain, planned.slot_occurs plain]
          constructor
          · rintro ⟨other, found', occurs⟩
            exact regular.find?_inj found found' ▸ occurs
          · exact fun occurs => ⟨name, found, occurs⟩
      | none =>
          rw [VariableTable.names, found]
          refine iff_of_false Bool.false_ne_true ?_
          rintro ⟨p, hp, occurs⟩
          have known := (planned.pattern plain hp occurs).2 name rfl
          rw [found] at known
          cases known
  · rintro ⟨supported, answer⟩
    refine ⟨fun id => ?_, stored.mpr answer.stored,
      (planned.accepts_iff plain σ).mpr answer.accepted⟩
    rw [planned.slot_occurs plain]
    constructor
    · intro value
      obtain ⟨name, found⟩ := supported id value
      rw [← VariableTable.names_of_find? found σ, answer.domain] at value
      exact ⟨name, found, value⟩
    · rintro ⟨name, found, occurs⟩
      rw [← VariableTable.names_of_find? found σ, answer.domain]
      exact occurs

theorem Planned.drain_answers {store : Store} (indexed : store.WellIndexed) :
    ∃ answers : List Valuation, answers.Nodup ∧
      (∀ ρ, ρ ∈ answers ↔ s.IsAnswer store.triples ρ) ∧
      let d := JoinState.drain s'.joinPlan (.ofSource store.source .none)
        (.start s'.joinPlan s'.table ⟨false, 0, 0⟩)
      d.rows = answers.map (Solution.ofNames
          (VariableTable.columnsOf (Assignment.chosen s.selects s.selectAll s.patterns))) ∧
        d.error = none := by
  have regular := planned.assigns.regular
  have order := planned.order_perm
  have mem : ∀ σ, σ ∈ s'.joinPlan.answers a.table store.select ↔
      a.table.Supports σ ∧ s.IsAnswer store.triples (a.table.names σ) := fun σ =>
    (JoinPlan.mem_answers indexed order).trans (planned.isAnswer_iff plain)
  refine ⟨(s'.joinPlan.answers a.table store.select).map a.table.names, ?_, fun ρ => ?_, ?_⟩
  · refine List.pairwise_map.mpr ((JoinPlan.nodup_answers indexed).imp_of_mem ?_)
    intro σ τ hσ hτ ne same
    rw [← regular.places_names ((mem σ).mp hσ).1, same,
      regular.places_names ((mem τ).mp hτ).1] at ne
    exact ne rfl
  · constructor
    · intro h
      obtain ⟨σ, hσ, rfl⟩ := List.mem_map.mp h
      exact ((mem σ).mp hσ).2
    · intro answer
      have known : ∀ name, (ρ name).isSome → (a.table.find? name).isSome := by
        intro name value
        obtain ⟨p, hp, occurs⟩ := (answer.domain name).mp value
        exact (planned.pattern plain hp occurs).2 name rfl
      have same := regular.names_places known
      refine List.mem_map.mpr ⟨a.table.places ρ, (mem _).mpr ?_, same⟩
      exact ⟨regular.supports_places ρ, same.symm ▸ answer⟩
  · have proper := JoinPlan.proper_of_perm (planned.within plain) order
    obtain ⟨rows, noError⟩ := JoinState.drain_store indexed proper
    rw [planned.table]
    refine ⟨rows.trans ?_, noError⟩
    rw [List.map_map, ← planned.assigns.columns]
    exact List.map_congr_left fun σ _ => regular.row_eq σ

end Planned

end QueryState

/-- A whole run over a store of a join that was started. -/
def Started.runOver (j : Started) (store : Store) : JoinState.Drained BackendState :=
  JoinState.drain j.plan (.ofSource store.source .none) j.join

namespace Query

/-- The names of a query that can be compiled are terms and variables once they are
resolved. -/
theorem plain_of_compilable {q : Query} (free : q.SlotFree) (able : q.state.Compilable) :
    ∀ t ∈ (q.state.map q.state.resolver.rename).occurrences, t.Plain := by
  intro t ht
  rw [QueryState.occurrences_map] at ht
  obtain ⟨u, hu, rfl⟩ := List.mem_map.mp ht
  have resolved := Resolver.rename_ne_name (able.resolves u hu)
  cases renamed : q.state.resolver.rename u with
  | term t => exact .term t
  | named name => exact .named name
  | slot id => exact absurd (Resolver.rename_eq_slot renamed) (free u hu id)
  | qname s => exact absurd renamed (resolved s).1
  | reference s => exact absurd renamed (resolved s).2

def columns (q : Query) : List String :=
  VariableTable.columnsOf
    (Assignment.chosen q.state.selects q.state.selectAll
      (q.state.map q.state.resolver.rename).patterns)

theorem Fresh.execute_planned {q : Query} (fresh : q.Fresh)
    (ok : (q.take .prepare).1 = none) :
    q.state.Compilable ∧ ∃ a,
      (q.state.map q.state.resolver.rename).Planned a (q.take .prepare).2.state ∧
        (q.take .prepare).2.execute.1 = .ok ⟨(q.take .prepare).2.state.joinPlan,
          .start (q.take .prepare).2.state.joinPlan a.table ⟨q.state.aborted, 0, 0⟩⟩ := by
  obtain ⟨stops, made⟩ := fresh.prepare_eq
  obtain ⟨sound, able⟩ := stops.mp ok
  obtain ⟨engine, prepared, a, planned⟩ := made ok
  have started := execute_eq engine prepared (planned.failed.trans sound)
  rw [planned.table, planned.aborted] at started
  exact ⟨able, a, planned, started⟩

/-- **A prepared query delivers a row for each of its answers by names.** -/
theorem Fresh.execute_answers {q : Query} (fresh : q.Fresh) (free : q.SlotFree)
    (calm : q.state.aborted = false) (ok : (q.take .prepare).1 = none) {store : Store}
    (indexed : store.WellIndexed) :
    ∃ started, (q.take .prepare).2.execute.1 = .ok started ∧
      ∃ answers : List Valuation, answers.Nodup ∧
        (∀ ρ, ρ ∈ answers ↔
          (q.state.map q.state.resolver.rename).IsAnswer store.triples ρ) ∧
        (started.runOver store).rows = answers.map (Solution.ofNames q.columns) ∧
        (started.runOver store).error = none := by
  obtain ⟨able, a, planned, started⟩ := fresh.execute_planned ok
  refine ⟨_, started, ?_⟩
  unfold Started.runOver
  rw [calm, ← planned.table]
  exact planned.drain_answers (plain_of_compilable free able) indexed

end Query

end GraphPattern
