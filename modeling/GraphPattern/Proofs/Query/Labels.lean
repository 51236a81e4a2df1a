/-
# Names and the select list are labels

A query whose variables have other names, and that selects others of them, has its variables
in other places of its table.  Nothing else changes: the patterns are planned in the same
order, and the joins of the two queries go side by side, so that they have the same rows
wherever both select a variable.
-/
import GraphPattern.Proofs.Distinct
import GraphPattern.Proofs.Join.Renumbering
import GraphPattern.Proofs.Query.Independence
import Mathlib.Data.List.Forall2

namespace GraphPattern

/-! ## Plans do not look at the numbers of slots -/

namespace Planner

def Candidate.renumber (place : VarId → VarId) (c : Candidate) : Candidate :=
  { c with slots := c.slots.map place }

variable {place : VarId → VarId} (injective : Function.Injective place)

include injective

theorem slots_renumber (p : TriplePattern) :
    (p.map (PatternTerm.renumber place)).slots = p.slots.map place := by
  have found : (p.map (PatternTerm.renumber place)).terms.filterMap PatternTerm.slot? =
      (p.terms.filterMap PatternTerm.slot?).map place := by
    rw [TriplePattern.terms_map, List.filterMap_map, List.map_filterMap]
    refine congrArg (fun f => List.filterMap f p.terms) (funext fun x => ?_)
    cases x <;> rfl
  rw [TriplePattern.slots, found]
  exact foldl_insertNew_map injective _ []

theorem numbered_renumber (patterns : List TriplePattern) :
    numbered (patterns.map fun p => p.map (PatternTerm.renumber place)) =
      (numbered patterns).map (Candidate.renumber place) := by
  unfold numbered
  rw [List.zipIdx_map, List.map_map, List.map_map]
  refine List.map_congr_left fun entry _ => ?_
  simp [Candidate.renumber, slots_renumber injective]

theorem score_renumber (bound : List VarId) (c : Candidate) :
    score (bound.map place) (c.renumber place) = score bound c := by
  unfold score Candidate.renumber
  rw [List.filter_map, List.length_map]
  refine congrArg List.length (List.filter_congr fun id _ => ?_)
  simp [List.mem_map, injective.eq_iff]

theorem bestOf_renumber (bound : List VarId) (best : Candidate) (rest : List Candidate) :
    bestOf (bound.map place) (best.renumber place) (rest.map (Candidate.renumber place)) =
      (bestOf bound best rest).renumber place := by
  induction rest generalizing best with
  | nil => rfl
  | cons c rest ih =>
      rw [List.map_cons, bestOf, bestOf, score_renumber injective, score_renumber injective,
        ← ih]
      split <;> rfl

theorem Candidate.renumber_injective : Function.Injective (Candidate.renumber place) := by
  rintro ⟨i, slots⟩ ⟨j, slots'⟩ same
  simp only [renumber, Candidate.mk.injEq] at same ⊢
  exact ⟨same.1, injective.list_map same.2⟩

theorem greedy_renumber (bound : List VarId) (candidates : List Candidate) :
    greedy (bound.map place) (candidates.map (Candidate.renumber place)) =
      greedy bound candidates := by
  induction bound, candidates using greedy.induct with
  | case1 bound => rw [List.map_nil, greedy, greedy]
  | case2 bound c rest best ih =>
      have chosen : bestOf (bound.map place) (c.renumber place)
          (rest.map (Candidate.renumber place)) = best.renumber place :=
        bestOf_renumber injective bound c rest
      rw [List.map_cons, greedy, greedy, chosen, ← List.map_cons,
        ← List.map_erase (Candidate.renumber_injective injective)]
      rw [List.map_append] at ih
      exact congrArg _ ih

theorem byConnectivity_renumber (patterns : List TriplePattern) :
    byConnectivity (patterns.map fun p => p.map (PatternTerm.renumber place)) =
      byConnectivity patterns := by
  have others := greedy_renumber injective [] ((numbered patterns).filter
    fun c => !c.slots.isEmpty)
  have bare (c : Candidate) : (c.renumber place).slots.isEmpty = c.slots.isEmpty :=
    List.isEmpty_map ..
  have index (c : Candidate) : (c.renumber place).index = c.index := rfl
  unfold byConnectivity
  rw [List.partition_eq_filter_filter, List.partition_eq_filter_filter,
    numbered_renumber injective]
  simp only [List.filter_map, List.map_map, Function.comp_def, bare, index]
  exact congrArg _ others

end Planner

theorem PlanStrategy.plan_renumber {place : VarId → VarId} (injective : Function.Injective place)
    (strategy : PlanStrategy) (patterns : List TriplePattern) :
    strategy.plan (patterns.map fun p => p.map (PatternTerm.renumber place)) =
      strategy.plan patterns := by
  cases strategy with
  | declared => exact congrArg List.range (List.length_map ..)
  | connectivity => exact Planner.byConnectivity_renumber injective patterns

/-! ## Other names -/

def PatternTerm.relabel (ρ : String → String) : PatternTerm → PatternTerm
  | .named name => .named (ρ name)
  | t => t

theorem Resolver.rename_relabel (r : Resolver) (ρ : String → String) (t : PatternTerm) :
    r.rename (t.relabel ρ) = (r.rename t).relabel ρ := by
  cases t with
  | named name => rfl
  | slot id => rfl
  | term u => rfl
  | reference text =>
      show r.rename (.reference text) = _
      unfold rename
      split <;> rfl
  | qname text =>
      show r.rename (.qname text) = _
      unfold rename
      split <;> rfl

/-! ## The places of other names -/

namespace VariableTable

variable {T T' : VariableTable} {ρ : String → String} {x : String} {i j : VarId}

/-- The place in `T'` of the new name of a variable of `T`; places without one follow behind
`T'`. -/
def placeIn (T T' : VariableTable) (ρ : String → String) (id : VarId) : VarId :=
  ((T.get? id).bind fun v => T'.find? (ρ v.name)).getD ⟨T'.size + id.index⟩

theorem Regular.placeIn_eq (regular : T.Regular) (found : T.find? x = some i)
    (found' : T'.find? (ρ x) = some j) : T.placeIn T' ρ i = j := by
  obtain ⟨v, there, rfl⟩ := (regular.find?_iff x i).mp found
  rw [placeIn, there, Option.bind_some, found']
  rfl

/-- A place is that of a name in both tables, or it is led behind the other table. -/
theorem Regular.placeIn_cases (regular : T.Regular) (T' : VariableTable) (ρ : String → String)
    (id : VarId) :
    (∃ x, T.find? x = some id ∧ T'.find? (ρ x) = some (T.placeIn T' ρ id)) ∨
      T.placeIn T' ρ id = ⟨T'.size + id.index⟩ := by
  unfold placeIn
  cases there : T.get? id with
  | none => exact .inr rfl
  | some v =>
      rw [Option.bind_some]
      cases found : T'.find? (ρ v.name) with
      | none => exact .inr rfl
      | some j => exact .inl ⟨v.name, (regular.find?_iff v.name id).mpr ⟨v, there, rfl⟩, found⟩

/-- New names that are different for different names make a renumbering. -/
def renumbering (regular : T.Regular) (regular' : T'.Regular) (injective : Function.Injective ρ) :
    Renumbering T T' where
  place := T.placeIn T' ρ
  injective i j same := by
    -- two names, a name and a place behind the other table, or two places behind it
    rcases regular.placeIn_cases T' ρ i with ⟨x, found, found'⟩ | behind
    · rcases regular.placeIn_cases T' ρ j with ⟨y, known, known'⟩ | behind'
      · rw [same] at found'
        have names := injective (regular'.find?_inj found' known')
        rw [names, known] at found
        exact (Option.some.inj found).symm
      · have inside := regular'.lt_size found'
        rw [same, behind'] at inside
        exact absurd inside (Nat.not_lt.mpr (Nat.le_add_right ..))
    · rcases regular.placeIn_cases T' ρ j with ⟨y, known, known'⟩ | behind'
      · have inside := regular'.lt_size known'
        rw [← same, behind] at inside
        exact absurd inside (Nat.not_lt.mpr (Nat.le_add_right ..))
      · rw [behind, behind'] at same
        have places := Nat.add_left_cancel (VarId.mk.inj same)
        cases i
        cases j
        exact congrArg VarId.mk places

section Slotted

variable {t : PatternTerm} {id : VarId} (regular : T.Regular) (regular' : T'.Regular)
  (injective : Function.Injective ρ) (plain : t.Plain) (covers : T.Covers t)
  (covers' : T'.Covers (t.relabel ρ))

include plain covers covers'

theorem slotted_relabel :
    T'.slotted (t.relabel ρ) =
      (T.slotted t).renumber (renumbering regular regular' injective).place := by
  cases plain with
  | term u => rfl
  | named x =>
      obtain ⟨i, found⟩ := Option.isSome_iff_exists.mp (covers x rfl)
      obtain ⟨j, found'⟩ := Option.isSome_iff_exists.mp (covers' (ρ x) rfl)
      rw [slotted_named found, PatternTerm.relabel, slotted_named found']
      exact congrArg PatternTerm.slot (regular.placeIn_eq found found').symm

theorem shared_of_slotted (slot : T.slotted t = .slot id) :
    (renumbering regular regular' injective).Shared id := by
  obtain ⟨x, rfl, found⟩ := slotted_eq_slot plain slot
  obtain ⟨j, found'⟩ := Option.isSome_iff_exists.mp (covers' (ρ x) rfl)
  refine ⟨regular.lt_size found, ?_⟩
  rw [show (renumbering regular regular' injective).place id = j from
    regular.placeIn_eq found found']
  exact regular'.lt_size found'

theorem leavesAgree_slotted {table table' : VariableTable}
    (related : (renumbering regular regular' injective).Relates table table') :
    LeavesAgree table' table (T'.slotted (t.relabel ρ)) (T.slotted t) := by
  have agree := slotted_relabel regular regular' injective plain covers covers'
  cases plain with
  | term u => exact .term u
  | named x =>
      obtain ⟨i, found⟩ := Option.isSome_iff_exists.mp (covers x rfl)
      have slot := slotted_named found
      rw [agree, slot]
      exact .slot (related.value i
        (shared_of_slotted regular regular' injective (.named x) covers covers' slot))

end Slotted

theorem Regular.ofTable_eq (regular : T.Regular) {table : VariableTable}
    (declared : table.reset = T.reset) :
    Solution.ofTable table = .ofNames (T.selected.map (·.name)) (T.names table.value) := by
  rw [← regular.row_eq, ← ofTable_assign, assign_value declared]

end VariableTable

/-! ## Plans of queries -/

namespace QueryState

/-- One query is the other with other names for its variables; their select lists may be any. -/
structure Relabeled (ρ : String → String) (s s' : QueryState) : Prop where
  config : s'.config = s.config
  prefixes : s'.prefixes = s.prefixes
  base : s'.base = s.base
  patterns : s'.patterns = s.patterns.map fun p => p.map (PatternTerm.relabel ρ)
  constraints : s'.constraints = s.constraints.map fun e => e.map (PatternTerm.relabel ρ)

variable {ρ : String → String} {s s' made made' : QueryState} {a a' : Assignment}

theorem Relabeled.resolver (h : Relabeled ρ s s') : s'.resolver = s.resolver := by
  unfold QueryState.resolver effectiveBase
  rw [h.config, h.prefixes, h.base]

theorem Relabeled.occurrences (h : Relabeled ρ s s') :
    s'.occurrences = s.occurrences.map (PatternTerm.relabel ρ) := by
  have same : s'.occurrences = (s.map (PatternTerm.relabel ρ)).occurrences := by
    unfold QueryState.occurrences
    rw [h.patterns, h.constraints]
    rfl
  rw [same, occurrences_map]

theorem Relabeled.renamed (h : Relabeled ρ s s') :
    Relabeled ρ (s.map s.resolver.rename) (s'.map s'.resolver.rename) where
  config := h.config
  prefixes := h.prefixes
  base := h.base
  patterns := by
    show s'.patterns.map _ = (s.patterns.map _).map _
    rw [h.resolver, h.patterns, List.map_map, List.map_map]
    refine List.map_congr_left fun p _ => ?_
    simp [TriplePattern.map, Resolver.rename_relabel]
  constraints := by
    show s'.constraints.map _ = (s.constraints.map _).map _
    rw [h.resolver, h.constraints, List.map_map, List.map_map]
    refine List.map_congr_left fun e _ => ?_
    simp [Expression.map_map, Resolver.rename_relabel]

theorem occurs_in_pattern {p : TriplePattern} (mem : p ∈ s.patterns) {t : PatternTerm}
    (part : t ∈ p.terms) : t ∈ s.occurrences :=
  List.mem_append_left _ (List.mem_flatMap.mpr ⟨p, mem, part⟩)

theorem occurs_in_constraint {e : Expression} (mem : e ∈ s.constraints) {t : PatternTerm}
    (leaf : t ∈ e.leaves) : t ∈ s.occurrences :=
  List.mem_append_right _ (List.mem_flatMap.mpr ⟨e, mem, leaf⟩)

theorem Planned.covers (planned : s.Planned a made) {t : PatternTerm} (mem : t ∈ s.occurrences) :
    a.table.Covers t :=
  (List.mem_append.mp mem).elim (planned.assigns.covers_patterns t)
    (planned.assigns.covers_constraints t)

section Planned

variable (h : Relabeled ρ s s') (plain : ∀ t ∈ s.occurrences, t.Plain)
  (planned : s.Planned a made) (planned' : s'.Planned a' made')
  (regular : a.table.Regular) (regular' : a'.table.Regular)
  (injective : Function.Injective ρ)

include h plain planned planned'

theorem Relabeled.covers {t : PatternTerm} (mem : t ∈ s.occurrences) :
    t.Plain ∧ a.table.Covers t ∧ a'.table.Covers (t.relabel ρ) :=
  ⟨plain t mem, planned.covers mem, planned'.covers (h.occurrences ▸ List.mem_map_of_mem mem)⟩

theorem Relabeled.joinPlan_patterns : made'.joinPlan.patterns = made.joinPlan.patterns.map fun p =>
    p.map (PatternTerm.renumber (VariableTable.renumbering regular regular' injective).place) := by
  rw [planned'.patterns_eq, planned.patterns_eq, h.patterns, List.map_map, List.map_map]
  refine List.map_congr_left fun p mem => ?_
  have slotted : ∀ t ∈ p.terms, a'.table.slotted (t.relabel ρ) = (a.table.slotted t).renumber
      (VariableTable.renumbering regular regular' injective).place := by
    intro t part
    obtain ⟨plain', covers, covers'⟩ :=
      h.covers plain planned planned' (occurs_in_pattern mem part)
    exact VariableTable.slotted_relabel regular regular' injective plain' covers covers'
  simp only [Function.comp_apply, TriplePattern.map, TriplePattern.mk.injEq]
  exact ⟨slotted _ (p.term_mem .subject), slotted _ (p.term_mem .predicate),
    slotted _ (p.term_mem .object)⟩

theorem Relabeled.joinPlan_accepts {t t' : VariableTable}
    (related : (VariableTable.renumbering regular regular' injective).Relates t t') :
    made'.joinPlan.accepts t' t'.value = made.joinPlan.accepts t t.value := by
  have joined : made.joinPlan.constraint = conjunction a.constraints := planned.constraint
  have joined' : made'.joinPlan.constraint = conjunction a'.constraints := planned'.constraint
  have accepts : ∀ e ∈ s.constraints, ((e.map (PatternTerm.relabel ρ)).map
      a'.table.slotted).accepts t' = (e.map a.table.slotted).accepts t := by
    intro e mem
    rw [Expression.map_map]
    refine Expression.accepts_agree fun leaf part => ?_
    obtain ⟨plain', covers, covers'⟩ :=
      h.covers plain planned planned' (occurs_in_constraint mem part)
    exact VariableTable.leavesAgree_slotted regular regular' injective plain' covers covers' related
  rw [JoinPlan.accepts_conjunction joined, JoinPlan.accepts_conjunction joined',
    t.assign_self, t'.assign_self, planned'.assigns.constraints_eq,
    planned.assigns.constraints_eq, h.constraints, List.map_map, List.all_map, List.all_map,
    Bool.eq_iff_iff, List.all_eq_true, List.all_eq_true]
  refine forall_congr' fun e => forall_congr' fun mem => ?_
  simp only [Function.comp_apply, accepts e mem]

/-- **Queries with other names are planned alike.** -/
theorem Relabeled.plans :
    (VariableTable.renumbering regular regular' injective).Plans made.joinPlan
      made'.joinPlan where
  patterns := h.joinPlan_patterns plain planned planned' regular regular' injective
  order := by
    rw [planned'.joinPlan_order, planned.joinPlan_order,
      h.joinPlan_patterns plain planned planned' regular regular' injective, h.config]
    exact PlanStrategy.plan_renumber (Renumbering.injective _) _ _
  shared := by
    intro p mem x part id slot
    rw [planned.patterns_eq] at mem
    obtain ⟨p₀, mem₀, rfl⟩ := List.mem_map.mp mem
    obtain ⟨t, part₀, rfl⟩ := List.mem_map.mp (TriplePattern.terms_map _ p₀ ▸ part)
    obtain ⟨plain', covers, covers'⟩ :=
      h.covers plain planned planned' (occurs_in_pattern mem₀ part₀)
    exact VariableTable.shared_of_slotted regular regular' injective plain' covers covers' slot
  accepts := fun _ _ =>
    h.joinPlan_accepts plain planned planned' regular regular' injective

end Planned

/-! ## Rows of queries -/

theorem Planned.find?_of_column (planned : s.Planned a made) {x : String}
    (column : x ∈ VariableTable.columnsOf
      (Assignment.chosen s.selects s.selectAll s.patterns)) :
    ∃ i, a.table.find? x = some i := by
  rw [← planned.assigns.columns] at column
  obtain ⟨v, selected, rfl⟩ := List.mem_map.mp column
  refine Option.isSome_iff_exists.mp (planned.assigns.regular.isSome_find?.mpr ?_)
  exact List.mem_map_of_mem (List.mem_of_mem_take selected)

theorem Planned.row_eq (planned : s.Planned a made) {table : VariableTable}
    (declared : table.reset = a.table.reset) :
    Solution.ofTable table = .ofNames (VariableTable.columnsOf
      (Assignment.chosen s.selects s.selectAll s.patterns)) (a.table.names table.value) := by
  rw [planned.assigns.regular.ofTable_eq declared, planned.assigns.columns]

end QueryState

namespace Query

variable {ρ : String → String} {q r : Query}

theorem columns_distinct (q : Query) : VariableTable.columnsOf q.columns = q.columns := by
  have distinct : q.columns.Nodup := nodup_foldl_insertNew List.nodup_nil _
  exact foldl_insertNew_of_nodup (List.nil_append q.columns ▸ distinct)

/-- Rows of two queries have the columns of their queries, and the same value for a variable
of the one and its new name in the other wherever both have it. -/
structure SameRow (q r : Query) (ρ : String → String) (row row' : Solution) : Prop where
  names : row.names = q.columns
  names' : row'.names = r.columns
  value : ∀ x ∈ q.columns, ρ x ∈ r.columns → row'.get? (ρ x) = row.get? x

theorem sameRow_of_relates (injective : Function.Injective ρ) {made made' : QueryState}
    {a a' : Assignment} (planned : (q.state.map q.state.resolver.rename).Planned a made)
    (planned' : (r.state.map r.state.resolver.rename).Planned a' made')
    {table table' : VariableTable}
    (related : (VariableTable.renumbering planned.assigns.regular planned'.assigns.regular
      injective).Relates table table') :
    q.SameRow r ρ (.ofTable table) (.ofTable table') := by
  have row : Solution.ofTable table = .ofNames q.columns (a.table.names table.value) :=
    planned.row_eq related.declared
  have row' : Solution.ofTable table' = .ofNames r.columns (a'.table.names table'.value) :=
    planned'.row_eq related.declared'
  rw [row, row']
  refine ⟨?_, ?_, fun x column column' => ?_⟩
  · rw [Solution.names_ofNames, columns_distinct]
  · rw [Solution.names_ofNames, columns_distinct]
  · obtain ⟨i, found⟩ := planned.find?_of_column column
    obtain ⟨j, found'⟩ := planned'.find?_of_column column'
    have regular := planned.assigns.regular
    have regular' := planned'.assigns.regular
    obtain rfl : a.table.placeIn a'.table ρ i = j := regular.placeIn_eq found found'
    rw [Solution.get?_ofNames column, Solution.get?_ofNames column',
      VariableTable.names_of_find? found, VariableTable.names_of_find? found']
    exact related.value i ⟨regular.lt_size found, regular'.lt_size found'⟩

/-- **Names and the select list are labels.**  Two queries of the built-in language differ in
the names of their variables, and select what they like.  When both have been prepared they
have planned their patterns in the same order, and over the same source their runs end in the
same way and have rows that correspond one to one: a variable of the one that both select has
the value of its new name in the other.  The flag is no label, so it is the same in both. -/
theorem labels_do_not_matter (injective : Function.Injective ρ) (built : q.Built)
    (built' : r.Built) (same : QueryState.Relabeled ρ q.state r.state) (free : q.SlotFree)
    (flag : r.state.aborted = q.state.aborted) (ok : (q.take .prepare).1 = none)
    (ok' : (r.take .prepare).1 = none) :
    (r.take .prepare).2.state.order = (q.take .prepare).2.state.order ∧
      ∃ j j', (q.take .prepare).2.execute.1 = .ok j ∧ (r.take .prepare).2.execute.1 = .ok j' ∧
        ∀ b : Backend BackendState,
          let d := JoinState.drain j.plan b j.join
          let d' := JoinState.drain j'.plan b j'.join
          d'.error = d.error ∧ List.Forall₂ (q.SameRow r ρ) d.rows d'.rows := by
  obtain ⟨able, a, planned, started⟩ := built.fresh.execute_planned ok
  obtain ⟨-, a', planned', started'⟩ := built'.fresh.execute_planned ok'
  have plans := same.renamed.plans (plain_of_compilable free able) planned planned'
    planned.assigns.regular planned'.assigns.regular injective
  refine ⟨plans.order, _, _, started, started', fun b => ?_⟩
  have twin := Renumbering.twin_start plans (⟨q.state.aborted, 0, 0⟩ : BackendState)
  obtain ⟨tables, all, rows, rows', error⟩ := twin.drain plans b
  rw [flag]
  refine ⟨error, ?_⟩
  dsimp only
  rw [rows, rows', List.forall₂_map_left_iff, List.forall₂_map_right_iff,
    List.forall₂_same]
  exact fun pair mem => sameRow_of_relates injective planned planned' (all pair mem)

/-- The chain with marked names, of which it selects other ones, one of them twice, and one that
no pattern has. -/
def markedChain : Query :=
  ofEdits .default
    [.addSelect "vz", .addSelect "vx", .addSelect "w", .addSelect "vx",
      .addPattern (chainStep "vx" "vy"), .addPattern (chainStep "vy" "vz")]

theorem chain_relabeled : chainQuery.state.Relabeled ("v" ++ ·) markedChain.state where
  config := rfl
  prefixes := rfl
  base := rfl
  patterns := rfl
  constraints := rfl

theorem slotFree_chain : chainQuery.SlotFree := by
  intro t mem id slot
  have terms : t ∈ [.named "x", .term (.iri .xsdString), .named "y", .named "y",
    .term (.iri .xsdString), .named "z"] := mem
  simp [slot] at terms

/-- Both chains are planned alike, and the rows of a store give `x` and `vx` the same value. -/
theorem marked_chain_same :
    markedChain.columns = ["vz", "vx", "w"] ∧
      (markedChain.take .prepare).2.state.order = (chainQuery.take .prepare).2.state.order ∧
      ∃ j j', (chainQuery.take .prepare).2.execute.1 = .ok j ∧
        (markedChain.take .prepare).2.execute.1 = .ok j' ∧
        List.Forall₂ (fun row row' => row'.get? "vx" = row.get? "x")
          (j.runOver (.ofEdits JoinState.chainEdits)).rows
          (j'.runOver (.ofEdits JoinState.chainEdits)).rows := by
  have injective : Function.Injective (("v" : String) ++ ·) := fun x y same => by simpa using same
  obtain ⟨order, j, j', started, started', same⟩ := labels_do_not_matter injective
    (built_ofEdits _ _) (built_ofEdits _ _) chain_relabeled slotFree_chain rfl
    (by decide +kernel) (by decide +kernel)
  refine ⟨by decide +kernel, order, j, j', started, started', ?_⟩
  refine (same (.ofSource (Store.ofEdits JoinState.chainEdits).source .none)).2.imp ?_
  exact fun row row' same => same.value "x" (by decide +kernel) (by decide +kernel)

end Query

end GraphPattern
