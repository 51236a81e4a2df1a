/-
# Answers do not depend on how a query is written down

Two queries that ask for the same variables, with the same patterns in any order and
number and the same constraints in any order, have the same answers by names, and so do
two stores with the same triples.  The order of the patterns, the numbers of the slots, the
plan, the order of the candidates and the strategy only decide in which order the rows
come.
-/
import GraphPattern.Proofs.Query.Meaning

namespace GraphPattern

namespace Query

/-- The queries have the same parts: only the order of patterns and constraints, the
number of times a pattern is written, and the strategy may differ. -/
structure SameUpToOrder (q r : Query) : Prop where
  selects : q.state.selects = r.state.selects
  explicit : q.state.selectAll = false
  explicit' : r.state.selectAll = false
  prefixes : q.state.prefixes = r.state.prefixes
  base : q.state.base = r.state.base
  config : { q.state.config with ordering := r.state.config.ordering } = r.state.config
  patterns : ∀ p, p ∈ q.state.patterns ↔ p ∈ r.state.patterns
  constraints : q.state.constraints.Perm r.state.constraints

variable {q r : Query}

/-! ## The same names, the same resolver -/

theorem SameUpToOrder.resolver (same : q.SameUpToOrder r) :
    q.state.resolver = r.state.resolver := by
  unfold QueryState.resolver QueryState.effectiveBase
  rw [same.prefixes, same.base, ← same.config]

theorem SameUpToOrder.occurrences (same : q.SameUpToOrder r) (t : PatternTerm) :
    t ∈ q.state.occurrences ↔ t ∈ r.state.occurrences := by
  simp only [QueryState.occurrences, List.mem_append, List.mem_flatMap, same.patterns,
    same.constraints.mem_iff]

theorem SameUpToOrder.vacant (same : q.SameUpToOrder r) : q.state.Vacant ↔ r.state.Vacant := by
  have patterns : q.state.patterns = [] ↔ r.state.patterns = [] := by
    simp only [List.eq_nil_iff_forall_not_mem, same.patterns]
  simp only [QueryState.Vacant, Assignment.Vacant, same.explicit, same.explicit', same.selects,
    patterns]

theorem SameUpToOrder.compilable (same : q.SameUpToOrder r) :
    q.state.Compilable ↔ r.state.Compilable := by
  constructor
  · intro ⟨resolves, occupied⟩
    refine ⟨fun t ht => ?_, mt same.vacant.mpr occupied⟩
    rw [← same.resolver]
    exact resolves t ((same.occurrences t).mpr ht)
  · intro ⟨resolves, occupied⟩
    refine ⟨fun t ht => ?_, mt same.vacant.mp occupied⟩
    rw [same.resolver]
    exact resolves t ((same.occurrences t).mp ht)

theorem SameUpToOrder.slotFree (same : q.SameUpToOrder r) (free : q.SlotFree) : r.SlotFree :=
  fun t ht => free t ((same.occurrences t).mpr ht)

theorem SameUpToOrder.columns (same : q.SameUpToOrder r) : q.columns = r.columns := by
  simp only [Query.columns, Assignment.chosen, same.explicit, same.explicit', same.selects,
    Bool.false_eq_true, if_false]

/-! ## The same answers -/

theorem SameUpToOrder.isAnswer_iff (same : q.SameUpToOrder r) {triples triples' : List Triple}
    (stored : ∀ t, t ∈ triples ↔ t ∈ triples') (ρ : Valuation) :
    (q.state.map q.state.resolver.rename).IsAnswer triples ρ ↔
      (r.state.map r.state.resolver.rename).IsAnswer triples' ρ := by
  have patterns : ∀ p, p ∈ (q.state.map q.state.resolver.rename).patterns ↔
      p ∈ (r.state.map r.state.resolver.rename).patterns := by
    intro p
    simp only [QueryState.map, List.mem_map, same.patterns, same.resolver]
  have constraints : ∀ e, e ∈ (q.state.map q.state.resolver.rename).constraints ↔
      e ∈ (r.state.map r.state.resolver.rename).constraints := by
    intro e
    simp only [QueryState.map, List.mem_map, same.constraints.mem_iff, same.resolver]
  constructor
  · intro answer
    refine ⟨fun name => ?_, fun p hp => ?_, fun e he => answer.accepted e ((constraints e).mpr he)⟩
    · simp only [answer.domain, patterns]
    · obtain ⟨t, ht, h⟩ := answer.stored p ((patterns p).mpr hp)
      exact ⟨t, (stored t).mp ht, h⟩
  · intro answer
    refine ⟨fun name => ?_, fun p hp => ?_, fun e he => answer.accepted e ((constraints e).mp he)⟩
    · simp only [answer.domain, patterns]
    · obtain ⟨t, ht, h⟩ := answer.stored p ((patterns p).mp hp)
      exact ⟨t, (stored t).mpr ht, h⟩

/-- **The answers of a query do not depend on how it is written down**, nor on the order in
which the triples came: both queries fail to be prepared, or both run to the same rows in
some order.  Errors that a front-end reports are no part of how a query is written down,
so both have them or neither does; and no one stops a run halfway. -/
theorem rows_perm_of_sameUpToOrder (built : q.Built) (built' : r.Built)
    (same : q.SameUpToOrder r) (failed : q.state.failed = r.state.failed)
    (free : q.SlotFree) (calm : q.state.aborted = false) (calm' : r.state.aborted = false)
    (edits edits' : List StoreEdit)
    (stored : ∀ t, t ∈ (Store.ofEdits edits).triples ↔ t ∈ (Store.ofEdits edits').triples) :
    ((q.take .prepare).1.isSome ∧ (r.take .prepare).1.isSome) ∨
      (q.take .prepare).1 = none ∧ (r.take .prepare).1 = none ∧
        ∃ j j', (q.take .prepare).2.execute.1 = .ok j ∧
          (r.take .prepare).2.execute.1 = .ok j' ∧
          (j.runOver (.ofEdits edits)).error = none ∧
          (j'.runOver (.ofEdits edits')).error = none ∧
          (j.runOver (.ofEdits edits)).rows.Perm (j'.runOver (.ofEdits edits')).rows := by
  have agree : (q.take .prepare).1 = none ↔ (r.take .prepare).1 = none := by
    rw [built.fresh.prepare_eq.1, built'.fresh.prepare_eq.1, failed, same.compilable]
  cases prepared : (q.take .prepare).1 with
  | some e =>
      refine .inl ⟨rfl, Option.isSome_iff_ne_none.mpr fun ok => ?_⟩
      rw [agree.mpr ok] at prepared
      cases prepared
  | none =>
      have prepared' := agree.mp prepared
      obtain ⟨j, started, answers, distinct, mem, rows, noError⟩ :=
        built.fresh.execute_answers free calm prepared (Store.wellIndexed_ofEdits edits)
      obtain ⟨j', started', answers', distinct', mem', rows', noError'⟩ :=
        built'.fresh.execute_answers (same.slotFree free) calm' prepared'
          (Store.wellIndexed_ofEdits edits')
      have perm : answers.Perm answers' :=
        (List.perm_ext_iff_of_nodup distinct distinct').mpr fun ρ => by
          rw [mem, mem', same.isAnswer_iff stored]
      refine .inr ⟨rfl, prepared', j, j', started, started', noError, noError', ?_⟩
      rw [rows, rows', ← same.columns]
      exact perm.map _

/-! ## A chain, written down twice -/

/-- A query of the built-in language that was created and filled in with edits. -/
def ofEdits (config : Config) (edits : List QueryEdit) : Query :=
  edits.foldl (fun q e => (q.take (.edit e)).2)
    ⟨.triples, { QueryState.new config none with initialized := true }⟩

theorem built_ofEdits (config : Config) (edits : List QueryEdit) :
    (ofEdits config edits).Built := by
  have run : ∀ q : Query, q.Built → (edits.foldl (fun q e => (q.take (.edit e)).2) q).Built := by
    induction edits with
    | nil => exact fun q h => h
    | cons e edits ih => exact fun q h => ih _ (h.edited e)
  have start : Query.create .triples config none =
      .ok ⟨.triples, { QueryState.new config none with initialized := true }⟩ := rfl
  exact run _ (.created start)

def chainStep (source target : String) : TriplePattern :=
  ⟨.named source, .term (.iri .xsdString), .named target⟩

def chainQuery : Query :=
  ofEdits .default
    [.addSelect "x", .addPattern (chainStep "x" "y"), .addPattern (chainStep "y" "z")]

/-- The same steps, written down backwards and once more, and planned as written. -/
def chainQuery' : Query :=
  ofEdits { Config.default with ordering := .declared }
    [.addSelect "x", .addPattern (chainStep "y" "z"), .addPattern (chainStep "x" "y"),
      .addPattern (chainStep "y" "z")]

theorem chain_sameUpToOrder : chainQuery.SameUpToOrder chainQuery' where
  selects := rfl
  explicit := rfl
  explicit' := rfl
  prefixes := rfl
  base := rfl
  config := rfl
  patterns p := by
    show p ∈ [chainStep "x" "y", chainStep "y" "z"] ↔
      p ∈ [chainStep "y" "z", chainStep "x" "y", chainStep "y" "z"]
    simp only [List.mem_cons, List.not_mem_nil, or_false]
    exact ⟨fun h => h.elim (.inr ∘ .inl) .inl, fun h => h.elim .inr (·.elim .inl .inr)⟩
  constraints := .nil

theorem chain_rows_perm : ∃ j j', (chainQuery.take .prepare).2.execute.1 = .ok j ∧
    (chainQuery'.take .prepare).2.execute.1 = .ok j' ∧
    (j.runOver (.ofEdits JoinState.chainEdits)).rows.Perm
      (j'.runOver (.ofEdits JoinState.chainEdits.reverse)).rows := by
  have free : chainQuery.SlotFree := by
    intro t ht id same
    have terms : t ∈ [.named "x", .term (.iri .xsdString), .named "y", .named "y",
      .term (.iri .xsdString), .named "z"] := ht
    simp [same] at terms
  have stored : ∀ t, t ∈ (Store.ofEdits JoinState.chainEdits).triples ↔
      t ∈ (Store.ofEdits JoinState.chainEdits.reverse).triples := by
    intro t
    have reversed : (Store.ofEdits JoinState.chainEdits.reverse).triples =
        (Store.ofEdits JoinState.chainEdits).triples.reverse := by decide +kernel
    rw [reversed, List.mem_reverse]
  rcases rows_perm_of_sameUpToOrder (built_ofEdits _ _) (built_ofEdits _ _) chain_sameUpToOrder
    rfl free rfl rfl JoinState.chainEdits JoinState.chainEdits.reverse stored with
    ⟨failed, -⟩ | ⟨-, -, j, j', started, started', -, -, perm⟩
  · exact absurd failed (by decide +kernel)
  · exact ⟨j, j', started, started', perm⟩

end Query

end GraphPattern
