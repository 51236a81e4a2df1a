/-
# Resolving the names of a query

`Resolver.rename` is what a name is replaced by and `Resolver.Resolves` says that it has
an IRI.  Resolving a query stops exactly if some name in it has none; otherwise it renames
every position of the patterns and every leaf of the constraints.
-/
import GraphPattern.Proofs.Query.Pass
import GraphPattern.Query.State

namespace GraphPattern

namespace Resolver

/-- A term needs no IRI, or has one. -/
def Resolves (r : Resolver) (t : PatternTerm) : Prop := ∀ e, r.nameIri? t ≠ some (.error e)

def rename (r : Resolver) (t : PatternTerm) : PatternTerm :=
  match r.nameIri? t with
  | some (.ok iri) => .term (.iri iri)
  | _ => t

/-- The error of a name without an IRI. -/
def failure? (r : Resolver) (t : PatternTerm) : Option QueryError :=
  match r.nameIri? t with
  | some (.error e) => some e
  | _ => none

theorem failure?_eq_some {r : Resolver} {t : PatternTerm} {e : QueryError} :
    r.failure? t = some e ↔ r.nameIri? t = some (.error e) := by
  unfold failure?
  cases r.nameIri? t with
  | none => simp
  | some found => cases found <;> simp

theorem failure?_eq_none {r : Resolver} {t : PatternTerm} :
    r.failure? t = none ↔ r.Resolves t := by
  rw [Option.eq_none_iff_forall_ne_some]
  exact forall_congr' fun e => not_congr failure?_eq_some

theorem resolveTerm_failure (r : Resolver) (t : PatternTerm) :
    (r.resolveTerm t).failure = r.failure? t := by
  unfold resolveTerm failure?
  cases r.nameIri? t with
  | none => rfl
  | some found => cases found <;> rfl

theorem resolveTerm_result {r : Resolver} {t : PatternTerm} (h : r.Resolves t) :
    (r.resolveTerm t).result = r.rename t := by
  unfold resolveTerm rename
  cases found : r.nameIri? t with
  | none => rfl
  | some answer =>
      cases answer with
      | ok iri => rfl
      | error e => exact absurd found (h e)

theorem rename_ne_name {r : Resolver} {t : PatternTerm} (h : r.Resolves t) (s : String) :
    r.rename t ≠ .qname s ∧ r.rename t ≠ .reference s := by
  unfold rename
  cases found : r.nameIri? t with
  | none => cases t <;> simp [nameIri?] at found ⊢
  | some answer =>
      cases answer with
      | ok iri => simp
      | error e => exact absurd found (h e)

theorem rename_eq_slot {r : Resolver} {t : PatternTerm} {id : VarId}
    (h : r.rename t = .slot id) : t = .slot id := by
  unfold rename at h
  split at h
  · cases h
  · exact h

/-- The step of resolving, as a visitor: it has no state. -/
def visitor (r : Resolver) : Visitor Unit QueryError where
  step _ t := r.resolveTerm t
  good _ := True
  later _ _ := True
  takes := r.Resolves
  covers _ _ := True
  image _ := r.rename
  later_refl _ := trivial
  later_trans _ _ := trivial
  covers_later _ _ := trivial
  step_good _ _ := trivial
  step_later _ _ := trivial
  step_failure t _ := by rw [r.resolveTerm_failure, failure?_eq_none]
  step_covers _ _ _ := trivial
  step_image _ _ takes _ _ := resolveTerm_result takes

theorem resolvePatterns_visits (r : Resolver) (ps : List TriplePattern) :
    r.visitor.Visits () (ps.flatMap TriplePattern.terms)
      (fun _ => ps.map fun p => p.map r.rename) (r.resolvePatterns ps) :=
  r.visitor.visitPatterns ps trivial

theorem resolveExpressions_visits (r : Resolver) (es : List Expression) :
    r.visitor.Visits () (es.flatMap Expression.leaves)
      (fun _ => es.map fun e => e.map r.rename) (r.resolveExpressions es) :=
  r.visitor.visitExpressions es trivial

/-! ## Errors of names -/

/-- Why a name has no IRI. -/
inductive Refusal : QueryError → Prop where
  | undeclaredPrefix (name qname : String) : Refusal (.undeclaredPrefix name qname)
  | invalidIri (detail : String) : Refusal (.invalidIri detail)

theorem Refusal.severity {e : QueryError} (h : Refusal e) : e.severity = .error := by
  cases h <;> rfl

theorem checkIri_error {s : String} {e : QueryError} (h : checkIri s = .error e) :
    Refusal e := by
  unfold checkIri at h
  split at h
  · cases h
  · cases h
    exact .invalidIri _

theorem nameIri?_error {r : Resolver} {t : PatternTerm} {e : QueryError}
    (h : r.nameIri? t = some (.error e)) : Refusal e := by
  cases t with
  | qname s =>
      have h : r.expandQname s = .error e := Option.some.inj h
      unfold expandQname at h
      split at h
      · cases h
        exact .invalidIri s
      · split at h
        · cases h
          exact .undeclaredPrefix _ s
        · cases h
          exact .invalidIri _
        · exact checkIri_error h
  | reference s =>
      have h : r.resolveReference s = .error e := Option.some.inj h
      unfold resolveReference at h
      split at h
      · cases h
        exact .invalidIri _
      · exact checkIri_error h
  | term _ | named _ | slot _ => cases h

/-! ## The first name without an IRI -/

theorem resolveTerm_failsFirst (r : Resolver) (t : PatternTerm) :
    (r.resolveTerm t).FailsFirst r.failure? [t] := by
  show (r.resolveTerm t).failure = [t].findSome? r.failure?
  rw [r.resolveTerm_failure, List.findSome?_singleton]

theorem resolvePatterns_failsFirst (r : Resolver) (ps : List TriplePattern) :
    (r.resolvePatterns ps).FailsFirst r.failure? (ps.flatMap TriplePattern.terms) :=
  Pass.failsFirst_list
    (fun s p => TriplePattern.visit_failsFirst (fun _ t => r.resolveTerm_failsFirst t) s p) ps ()

theorem resolveExpressions_failsFirst (r : Resolver) (es : List Expression) :
    (r.resolveExpressions es).FailsFirst r.failure? (es.flatMap Expression.leaves) :=
  Pass.failsFirst_list (fun s e => Expression.visitLeaves_failsFirst
    (fun _ t => (r.resolveTerm_failsFirst t).mapResult Expression.leaf) e s) es ()

end Resolver

namespace QueryState

/-- Everything that stands in the patterns and in the constraints, in that order. -/
def occurrences (s : QueryState) : List PatternTerm :=
  s.patterns.flatMap TriplePattern.terms ++ s.constraints.flatMap Expression.leaves

/-- The query with every term replaced. -/
def map (f : PatternTerm → PatternTerm) (s : QueryState) : QueryState :=
  { s with
    patterns := s.patterns.map fun p => p.map f
    constraints := s.constraints.map fun e => e.map f }

theorem occurrences_map (f : PatternTerm → PatternTerm) (s : QueryState) :
    (s.map f).occurrences = s.occurrences.map f := by
  simp only [occurrences, map, List.map_append, List.map_flatMap, List.flatMap_map,
    TriplePattern.terms_map, Expression.leaves_map]

/-- **Resolving stops exactly if some name has no IRI, and otherwise renames all.** -/
theorem resolveNames_eq (s : QueryState) :
    (s.resolveNames.1 = none ↔ ∀ t ∈ s.occurrences, s.resolver.Resolves t) ∧
      (s.resolveNames.1 = none → s.resolveNames.2 = s.map s.resolver.rename) := by
  have p := s.resolver.resolvePatterns_visits s.patterns
  have c := s.resolver.resolveExpressions_visits s.constraints
  unfold resolveNames
  dsimp only
  cases hp : (s.resolver.resolvePatterns s.patterns).failure with
  | some e =>
      refine ⟨⟨(fun h => nomatch h), fun all => ?_⟩, fun h => nomatch h⟩
      have := p.failure.mpr fun t ht => all t (List.mem_append_left _ ht)
      rw [hp] at this
      cases this
  | none =>
      have passed := p.failure.mp hp
      refine ⟨?_, fun ok => ?_⟩
      · show (s.resolver.resolveExpressions s.constraints).failure = none ↔ _
        rw [c.failure]
        constructor
        · intro all t ht
          rcases List.mem_append.mp ht with ht | ht
          · exact passed t ht
          · exact all t ht
        · exact fun all t ht => all t (List.mem_append_right _ ht)
      · have patterns := p.result hp () trivial
        have constraints := c.result ok () trivial
        show { s with
          patterns := (s.resolver.resolvePatterns s.patterns).result
          constraints := (s.resolver.resolveExpressions s.constraints).result } = _
        rw [patterns, constraints]
        rfl

/-- **Resolving stops at the first name without an IRI**, in the patterns and then in the
constraints. -/
theorem resolveNames_first (s : QueryState) :
    s.resolveNames.1 = s.occurrences.findSome? s.resolver.failure? := by
  have patterns : (s.resolver.resolvePatterns s.patterns).failure = _ :=
    s.resolver.resolvePatterns_failsFirst s.patterns
  rw [occurrences, List.findSome?_append, ← patterns]
  unfold resolveNames
  dsimp only
  split
  · next stopped => rw [stopped, Option.some_or]
  · next passed =>
      rw [passed, Option.none_or]
      exact s.resolver.resolveExpressions_failsFirst s.constraints

end QueryState

end GraphPattern
