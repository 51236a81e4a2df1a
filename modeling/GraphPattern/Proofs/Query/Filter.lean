/-
# Constraints filter

A constraint sees nothing of the others.  The conjunction that a query is compiled to
matches where each of its constraints does by itself, since `&&` takes a side without a
truth value for false; and the constraints neither change the slots of the patterns nor
the plan, so that a join finds the same bindings with any of them.  What a query delivers
is hence read off the bindings that it finds without constraints: those at which every
constraint matches are left, in their order (`constraints_filter`).

A constraint may name variables that no pattern has.  They are behind the others in the
table and have no value at any binding, so that tables with and without them give names
the same values (`VariableTable.Grows.names_eq`).
-/
import GraphPattern.Proofs.Join.Disturbance
import GraphPattern.Proofs.Query.Independence

namespace GraphPattern

/-! ## Constraints by themselves -/

namespace Expression

variable {cache cache' cache'' : RegexCache}

/-- The conjunction of constraints matches exactly if each of them does, whatever the
evaluators have read. -/
theorem conjunction_holds (h : cache.Reached) (h' : cache'.Reached) (T : VariableTable)
    (es : List Expression) :
    (QueryState.conjunction es).elim true (fun e => ((e.holds T).run cache).1) =
      es.all fun e => ((e.holds T).run cache').1 := by
  simp only [holds_of_reached T _ h, holds_of_reached T _ h']
  cases es with
  | nil => rfl
  | cons e es => exact accepts_foldl_both T e es

theorem eval_connectives (h : cache.Reached) (h' : cache'.Reached) (h'' : cache''.Reached)
    (T : VariableTable) (l r : Expression) :
    (((binary .and l r).eval T).run cache).1 =
        .ok (.boolean (((l.holds T).run cache').1 && ((r.holds T).run cache'').1)) ∧
      (((binary .or l r).eval T).run cache).1 =
        .ok (.boolean (((l.holds T).run cache').1 || ((r.holds T).run cache'').1)) := by
  rw [eval_of_reached T _ h, eval_of_reached T _ h, holds_of_reached T l h',
    holds_of_reached T r h'']
  exact ⟨value_and T l r, value_or T l r⟩

end Expression

/-! ## Queries with other constraints -/

namespace QueryState

variable {s made made₀ : QueryState} {a a₀ : Assignment}

theorem Planned.accepts_eq (plain : ∀ t ∈ s.occurrences, t.Plain) (planned : s.Planned a made)
    (σ : Substitution) :
    made.joinPlan.accepts a.table σ =
      s.constraints.all fun e => e.trueFor (a.table.names σ) := by
  rw [Bool.eq_iff_iff, planned.accepts_iff plain, List.all_eq_true]

section Bare

variable (planned : s.Planned a made)
  (planned₀ : ({ s with constraints := [] } : QueryState).Planned a₀ made₀)

include planned planned₀

/-- The constraints of a query do not show in its patterns and their order, and their
variables come after those of the patterns. -/
theorem Planned.bare :
    a₀.table.Grows a.table ∧ made.joinPlan.patterns = made₀.joinPlan.patterns ∧
      made.joinPlan.order = made₀.joinPlan.order := by
  obtain ⟨grows, same⟩ :=
    Assignment.assign_grows planned.assigned planned₀.assigned planned₀.assigns.regular
  have patterns : made.joinPlan.patterns = made₀.joinPlan.patterns :=
    planned.patterns.trans (same.trans planned₀.patterns.symm)
  refine ⟨grows, patterns, ?_⟩
  rw [planned.joinPlan_order, planned₀.joinPlan_order, patterns]

theorem Planned.bindings_eq (lists : Candidates) :
    made.joinPlan.bindings lists = made₀.joinPlan.bindings lists := by
  obtain ⟨-, patterns, order⟩ := planned.bare planned₀
  unfold JoinPlan.bindings JoinPlan.choose
  rw [patterns, order]

theorem Planned.names_of_mem
    (plain₀ : ∀ t ∈ ({ s with constraints := [] } : QueryState).occurrences, t.Plain)
    {lists : Candidates} {σ : Substitution} (mem : σ ∈ made₀.joinPlan.bindings lists) :
    a.table.names σ = a₀.table.names σ := by
  have binding := JoinPlan.isBinding_of_mem planned₀.order_perm mem
  refine (planned.bare planned₀).1.names_eq planned.assigns.regular fun id value => ?_
  obtain ⟨name, found, -⟩ := (planned₀.slot_occurs plain₀).mp ((binding.domain id).mp value)
  exact ⟨name, found⟩

/-- The rows of a query with other constraints, by the bindings and the table of the query:
the constraints choose among the bindings, and the rest is the same. -/
theorem Planned.answers_row {es : List Expression} {made' : QueryState} {a' : Assignment}
    (planned' : ({ s with constraints := es } : QueryState).Planned a' made')
    (plain' : ∀ t ∈ ({ s with constraints := es } : QueryState).occurrences, t.Plain)
    (plain₀ : ∀ t ∈ ({ s with constraints := [] } : QueryState).occurrences, t.Plain)
    (lists : Candidates) :
    (made'.joinPlan.answers a'.table lists).map a'.table.row =
      ((made.joinPlan.bindings lists).filter fun σ =>
        es.all fun e => e.trueFor (a.table.names σ)).map a.table.row := by
  have names : ∀ σ ∈ made₀.joinPlan.bindings lists, a'.table.names σ = a.table.names σ := by
    intro σ mem
    rw [planned.names_of_mem planned₀ plain₀ mem]
    exact planned'.names_of_mem planned₀ plain₀ mem
  have columns : a'.table.selected.map (·.name) = a.table.selected.map (·.name) :=
    planned'.assigns.columns.trans planned.assigns.columns.symm
  have accepts : ∀ σ ∈ made₀.joinPlan.bindings lists, made'.joinPlan.accepts a'.table σ =
      es.all fun e => e.trueFor (a.table.names σ) := by
    intro σ mem
    rw [planned'.accepts_eq plain', names σ mem]
  rw [JoinPlan.answers_eq_filter, planned'.bindings_eq planned₀, planned.bindings_eq planned₀,
    List.filter_congr accepts]
  refine List.map_congr_left fun σ kept => ?_
  rw [planned'.assigns.regular.row_eq, planned.assigns.regular.row_eq, columns,
    names σ (List.mem_filter.mp kept).1]

end Bare

end QueryState

namespace Query

def withConstraints (q : Query) (es : List Expression) : Query :=
  { q with state := { q.state with constraints := es } }

/-- A constraint of a query as it is compiled: with resolved names, and with slots of the
table in place of variables. -/
def compiledForm (q : Query) (e : Expression) : Expression :=
  (e.map q.state.resolver.rename).map (q.take .prepare).2.state.table.slotted

/-- Whether a constraint matches where the variables of the compiled query have some
values. -/
def matchesAt (q : Query) (σ : Substitution) (e : Expression) : Bool :=
  (q.compiledForm e).accepts ((q.take .prepare).2.state.table.assign σ)

/-- The full bindings that an execution of the query finds in a source, whether they are
accepted or not, in the order of the join.  With the flag raised it does not look for any. -/
def bindings (q : Query) (lists : Candidates) : List Substitution :=
  if q.state.aborted then [] else (q.take .prepare).2.state.joinPlan.bindings lists

section

variable {q : Query} {es : List Expression}

theorem Fresh.withConstraints (fresh : q.Fresh) (es : List Expression) :
    (q.withConstraints es).Fresh :=
  ⟨fresh.engine, fresh.prepared, fresh.compiled⟩

variable (sub : ∀ e ∈ es, e ∈ q.state.constraints)

include sub

theorem occurs_of_withConstraints {t : PatternTerm}
    (h : t ∈ (q.withConstraints es).state.occurrences) : t ∈ q.state.occurrences := by
  refine (List.mem_append.mp h).elim (List.mem_append_left _) fun mem => ?_
  obtain ⟨e, he, ht⟩ := List.mem_flatMap.mp mem
  exact List.mem_append_right _ (List.mem_flatMap.mpr ⟨e, sub e he, ht⟩)

theorem Fresh.prepares_withConstraints (fresh : q.Fresh) (ok : (q.take .prepare).1 = none) :
    ((q.withConstraints es).take .prepare).1 = none := by
  obtain ⟨sound, able⟩ := fresh.prepare_eq.1.mp ok
  refine (fresh.withConstraints es).prepare_eq.1.mpr ⟨sound, ?_, able.occupied⟩
  intro t ht
  exact able.resolves t (occurs_of_withConstraints sub ht)

theorem SlotFree.withConstraints (free : q.SlotFree) : (q.withConstraints es).SlotFree :=
  fun t ht => free t (occurs_of_withConstraints sub ht)

end

theorem matchesAt_eq {q : Query} {a : Assignment}
    (plain : ∀ t ∈ (q.state.map q.state.resolver.rename).occurrences, t.Plain)
    (planned : (q.state.map q.state.resolver.rename).Planned a (q.take .prepare).2.state)
    {e : Expression} (mem : e ∈ q.state.constraints) (σ : Substitution) :
    q.matchesAt σ e = (e.map q.state.resolver.rename).trueFor (a.table.names σ) := by
  have leaf : ∀ t ∈ (e.map q.state.resolver.rename).leaves, t.Plain ∧ a.table.Covers t :=
    fun t ht => planned.constraintLeaf plain (List.mem_map_of_mem mem) ht
  unfold matchesAt compiledForm
  rw [planned.table]
  exact Expression.accepts_slotted planned.assigns.regular (fun t ht => (leaf t ht).1)
    (fun t ht => (leaf t ht).2) σ

theorem Fresh.rows_withConstraints {q : Query} (fresh : q.Fresh) (free : q.SlotFree)
    (ok : (q.take .prepare).1 = none) {source : TripleSource} {lists : Candidates}
    (answers : ∀ p, source p = .ok (lists p)) (selects : ∀ p, ∀ t ∈ lists p, p.selects t = true)
    {es : List Expression} (sub : ∀ e ∈ es, e ∈ q.state.constraints) :
    ∃ j, ((q.withConstraints es).take .prepare).2.execute.1 = .ok j ∧
      let d := JoinState.drain j.plan (.ofSource source .none) j.join
      d.rows = ((q.bindings lists).filter fun σ => es.all (q.matchesAt σ)).map
          (q.take .prepare).2.state.table.row ∧
        d.error = if q.state.aborted then some .aborted else none := by
  have none_sub : ∀ e ∈ ([] : List Expression), e ∈ q.state.constraints :=
    fun e h => nomatch h
  obtain ⟨able, a, planned, -⟩ := fresh.execute_planned ok
  obtain ⟨able', a', planned', started⟩ :=
    (fresh.withConstraints es).execute_planned (fresh.prepares_withConstraints sub ok)
  obtain ⟨able₀, a₀, planned₀, -⟩ :=
    (fresh.withConstraints []).execute_planned (fresh.prepares_withConstraints none_sub ok)
  have plain := plain_of_compilable free able
  have plain' := plain_of_compilable (free.withConstraints sub) able'
  have plain₀ := plain_of_compilable (free.withConstraints none_sub) able₀
  have flag : (q.withConstraints es).state.aborted = q.state.aborted := rfl
  refine ⟨_, started, ?_⟩
  rw [flag]
  cases raised : q.state.aborted with
  | true =>
      obtain ⟨rows, error⟩ := JoinState.drain_of_raised (b := Backend.ofSource source .none)
        (t := JoinState.start _ a'.table ⟨true, 0, 0⟩) _ nofun rfl
      refine ⟨rows.trans ?_, error⟩
      rw [bindings, raised]
      rfl
  | false =>
      have proper := JoinPlan.proper_of_perm (planned'.within plain') planned'.order_perm
      obtain ⟨rows, error⟩ := JoinState.drain_eq_answers
        (Backend.ofSource_honest answers selects .none) (Backend.ofSource_calm answers) proper
        (w := ⟨false, 0, 0⟩) rfl
      refine ⟨rows.trans ?_, error⟩
      rw [planned.answers_row planned₀ planned' plain' plain₀, bindings, raised, planned.table]
      refine congrArg _ (List.filter_congr fun σ _ => ?_)
      show (es.map fun e => e.map q.state.resolver.rename).all _ = _
      rw [List.all_map, Bool.eq_iff_iff, List.all_eq_true, List.all_eq_true]
      refine forall_congr' fun e => forall_congr' fun mem => ?_
      rw [matchesAt_eq plain planned (sub e mem)]
      rfl

/-- **Constraints are independent filters.**  A conjunction matches where each of its parts
does, and the connectives have the values of their sides, errors or not.  Hence a query that
can be prepared with all its constraints can be with any of them, in any order; over a source
that offers what it is asked for, the rows are those of the bindings at which every one of
these constraints matches, in the order of the join.  Without any (`es = []`) they are those
of all bindings. -/
theorem constraints_filter :
    (∀ (T : VariableTable) (es : List Expression) (cache cache' : RegexCache),
      cache.Reached → cache'.Reached →
        (QueryState.conjunction es).elim true (fun e => ((e.holds T).run cache).1) =
          es.all fun e => ((e.holds T).run cache').1) ∧
    (∀ (T : VariableTable) (l r : Expression) (cache cache' cache'' : RegexCache),
      cache.Reached → cache'.Reached → cache''.Reached →
        (((Expression.binary .and l r).eval T).run cache).1 =
            .ok (.boolean (((l.holds T).run cache').1 && ((r.holds T).run cache'').1)) ∧
          (((Expression.binary .or l r).eval T).run cache).1 =
            .ok (.boolean (((l.holds T).run cache').1 || ((r.holds T).run cache'').1))) ∧
    ∀ q : Query, q.Built → q.SlotFree → (q.take .prepare).1 = none →
      ∀ (source : TripleSource) (lists : Candidates), (∀ p, source p = .ok (lists p)) →
        (∀ p, ∀ t ∈ lists p, p.selects t = true) →
        (q.take .prepare).2.state.constraint =
            QueryState.conjunction (q.state.constraints.map q.compiledForm) ∧
          (∀ σ ∈ q.bindings lists, (q.take .prepare).2.state.joinPlan.IsBinding lists σ) ∧
          ∀ es : List Expression, (∀ e ∈ es, e ∈ q.state.constraints) →
            ((q.withConstraints es).take .prepare).1 = none ∧
              ∃ j, ((q.withConstraints es).take .prepare).2.execute.1 = .ok j ∧
                let d := JoinState.drain j.plan (.ofSource source .none) j.join
                d.rows = ((q.bindings lists).filter fun σ => es.all (q.matchesAt σ)).map
                    (q.take .prepare).2.state.table.row ∧
                  d.error = if q.state.aborted then some .aborted else none := by
  refine ⟨fun T es _ _ h h' => Expression.conjunction_holds h h' T es,
    fun T l r _ _ _ h h' h'' => Expression.eval_connectives h h' h'' T l r, ?_⟩
  intro q built free ok source lists answers selects
  obtain ⟨able, a, planned, -⟩ := built.fresh.execute_planned ok
  refine ⟨?_, fun σ mem => ?_, fun es sub => ?_⟩
  · rw [planned.constraint, planned.assigns.constraints_eq, ← planned.table]
    exact congrArg QueryState.conjunction (List.map_map ..)
  · rw [bindings] at mem
    split at mem
    · cases mem
    · exact JoinPlan.isBinding_of_mem planned.order_perm mem
  · exact ⟨built.fresh.prepares_withConstraints sub ok,
      built.fresh.rows_withConstraints free ok answers selects sub⟩

/-! ## One step, filtered -/

/-- `str(?x) eq "a"`. -/
def fromA : Expression :=
  .binary .textEq (.call "str" [.leaf (.named "x")]) (.const (.literal (.plain "a")))

/-- `lang(?x) eq "en"`, which is an error where `x` is a blank node. -/
def english : Expression :=
  .binary .textEq (.call "lang" [.leaf (.named "x")]) (.const (.literal (.plain "en")))

/-- `lang(?x) eq "en" || !bound(?w)`; no pattern has `w`. -/
def englishOrFree : Expression :=
  .binary .or english (.unary .not (.call "bound" [.leaf (.named "w")]))

/-- A step from `x` to `y` with all three constraints. -/
def filteredStep : Query :=
  ofEdits .default
    [.addSelect "x", .addSelect "y", .addPattern (chainStep "x" "y"), .addConstraint fromA,
      .addConstraint english, .addConstraint englishOrFree]

/-- Both steps of a chain are found without constraints; two constraints leave the first one,
and one that fails leaves none, though a disjunction recovers from it. -/
theorem filteredStep_rows :
    (QueryState.conjunction [fromA, english]).elim true
        (fun e => ((e.holds .empty).run .empty).1) = false ∧
    (((Expression.binary .or english (.const (.literal (.ofBool true)))).eval .empty).run
        .empty).1 = .ok (.boolean true) ∧
    (∃ j, ((filteredStep.withConstraints []).take .prepare).2.execute.1 = .ok j ∧
      (j.runOver JoinState.chainStore).rows.map (·.get? "x") =
        [some (.blank ⟨"a", by decide⟩), some (.blank ⟨"b", by decide⟩)]) ∧
    (∃ j, ((filteredStep.withConstraints [englishOrFree, fromA]).take .prepare).2.execute.1 =
        .ok j ∧
      (j.runOver JoinState.chainStore).rows.map (·.get? "x") =
        [some (.blank ⟨"a", by decide⟩)]) ∧
    ∃ j, ((filteredStep.withConstraints [fromA, english]).take .prepare).2.execute.1 = .ok j ∧
      (j.runOver JoinState.chainStore).rows = [] := by
  obtain ⟨conjoined, connected, filtered⟩ := constraints_filter
  have free : filteredStep.SlotFree := by
    intro t mem id slot
    have terms : t ∈ [.named "x", .term (.iri .xsdString), .named "y", .named "x",
      .term (.literal (.plain "a")), .named "x", .term (.literal (.plain "en")), .named "x",
      .term (.literal (.plain "en")), .named "w"] := mem
    simp [slot] at terms
  obtain ⟨-, -, all⟩ := filtered filteredStep (built_ofEdits _ _) free (by decide +kernel)
    JoinState.chainStore.source JoinState.chainStore.select (fun _ => rfl)
    JoinState.chain_selects
  have written : filteredStep.state.constraints = [fromA, english, englishOrFree] := rfl
  obtain ⟨-, j, started, rows, -⟩ := all [] (by simp)
  obtain ⟨-, j', started', rows', -⟩ := all [englishOrFree, fromA] (by simp [written])
  obtain ⟨-, j'', started'', rows'', -⟩ := all [fromA, english] (by simp [written])
  refine ⟨?_, ?_, ⟨j, started, ?_⟩, ⟨j', started', ?_⟩, ⟨j'', started'', ?_⟩⟩
  · exact (conjoined .empty _ .empty .empty .fresh .fresh).trans (by decide +kernel)
  · rw [(connected .empty english _ .empty .empty .empty .fresh .fresh .fresh).2]
    exact congrArg (fun b => Except.ok (Value.boolean b)) (by decide +kernel)
  · exact (congrArg _ rows).trans (by decide +kernel)
  · exact (congrArg _ rows').trans (by decide +kernel)
  · exact rows''.trans (by decide +kernel)

end Query

end GraphPattern
