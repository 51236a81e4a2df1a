/-
# Resolving names twice

A first run replaces the names up to the first that has no IRI, and all of them if there is
none (`Scanned`).  What it has replaced are terms, which a second run leaves alone, and the
name it stopped at is still there: so the second run comes to the same, in success and in
failure, and changes nothing.

Both are shown of the row of terms that a run goes through (`scan`), and then hold of the
patterns and of the expression that the terms stand in.
-/
import GraphPattern.Proofs.Query.Resolution
import GraphPattern.Proofs.Query.Traversal
import Mathlib.Data.List.Forall2

namespace GraphPattern

/-- A prefixed name or a reference. -/
def PatternTerm.IsName : PatternTerm → Prop
  | .qname _ | .reference _ => True
  | _ => False

/-- The operators of an expression: all leaves are the same. -/
def Expression.skeleton (e : Expression) : Expression := e.map fun _ => .named ""

namespace Resolver

variable {r : Resolver} {t u : PatternTerm} {ts us : List PatternTerm}

/-! ## One term -/

/-- What a term is replaced by: a name by its IRI, and nothing else. -/
inductive Replaced (r : Resolver) : PatternTerm → PatternTerm → Prop
  | name {t : PatternTerm} {iri : Iri} (stands : r.nameIri? t = some (.ok iri)) :
      Replaced r t (.term (.iri iri))
  | other {t : PatternTerm} (noName : ¬ t.IsName) : Replaced r t t

theorem nameIri?_eq_none : r.nameIri? t = none ↔ ¬ t.IsName := by
  cases t <;> simp [nameIri?, PatternTerm.IsName]

theorem Replaced.not_isName (h : r.Replaced t u) : ¬ u.IsName := by
  cases h with
  | name _ => exact id
  | other noName => exact noName

theorem resolveTerm_cases (r : Resolver) (t : PatternTerm) :
    (∃ u, r.Replaced t u ∧ r.resolveTerm t = ⟨u, (), none⟩) ∨
      ∃ e, r.nameIri? t = some (.error e) ∧ r.resolveTerm t = ⟨t, (), some e⟩ := by
  unfold resolveTerm
  cases found : r.nameIri? t with
  | none => exact .inl ⟨t, .other (nameIri?_eq_none.mp found), rfl⟩
  | some answer =>
      cases answer with
      | ok iri => exact .inl ⟨.term (.iri iri), .name found, rfl⟩
      | error e => exact .inr ⟨e, rfl, rfl⟩

theorem resolveTerm_of_not_isName (h : ¬ t.IsName) : r.resolveTerm t = ⟨t, (), none⟩ := by
  rw [resolveTerm, nameIri?_eq_none.mpr h]

theorem resolveTerm_again (r : Resolver) (t : PatternTerm) :
    r.resolveTerm (r.resolveTerm t).result = r.resolveTerm t := by
  rcases r.resolveTerm_cases t with ⟨u, replaced, step⟩ | ⟨e, -, step⟩
  · rw [step]
    exact resolveTerm_of_not_isName replaced.not_isName
  · rw [step]
    exact step

/-! ## Terms in a row -/

/-- What a run makes of the terms that it goes through: it replaces them all, or those in
front of the first name without an IRI, which is left with everything behind it. -/
inductive Scanned (r : Resolver) : List PatternTerm → Option QueryError → List PatternTerm → Prop
  | all {ts us : List PatternTerm} (replaced : List.Forall₂ r.Replaced ts us)
      (clean : ∀ u ∈ us, ¬ u.IsName) : Scanned r ts none us
  | upTo {front front' rest : List PatternTerm} {t : PatternTerm} {e : QueryError}
      (replaced : List.Forall₂ r.Replaced front front')
      (stuck : r.nameIri? t = some (.error e)) :
      Scanned r (front ++ t :: rest) (some e) (front' ++ t :: rest)

theorem Scanned.cons {failure : Option QueryError} (h : r.Scanned ts failure us)
    (first : r.Replaced t u) : r.Scanned (t :: ts) failure (u :: us) := by
  cases h with
  | all replaced clean =>
      exact .all (.cons first replaced) (List.forall_mem_cons.mpr ⟨first.not_isName, clean⟩)
  | upTo replaced stuck => exact .upTo (.cons first replaced) stuck

def scan (r : Resolver) (ts : List PatternTerm) : Pass Unit QueryError (List PatternTerm) :=
  Pass.row (fun _ t => r.resolveTerm t) id () ts

theorem scan_scanned (r : Resolver) (ts : List PatternTerm) :
    r.Scanned ts (r.scan ts).failure (r.scan ts).result := by
  induction ts with
  | nil => exact .all .nil nofun
  | cons t ts ih =>
      rw [scan, Pass.row]
      rcases r.resolveTerm_cases t with ⟨u, replaced, step⟩ | ⟨e, stuck, step⟩
      · rw [step, Pass.andThen_of_passed rfl]
        exact ih.cons replaced
      · rw [step, Pass.andThen_of_failed rfl, List.map_id]
        exact .upTo .nil stuck

theorem scan_again (r : Resolver) (ts : List PatternTerm) :
    r.scan (r.scan ts).result = r.scan ts :=
  Pass.row_again r.resolveTerm_again ts

/-! ## Patterns and expressions -/

theorem resolvePatterns_scan (r : Resolver) (ps : List TriplePattern) :
    (r.resolvePatterns ps).mapResult (List.flatMap TriplePattern.terms) =
      r.scan (ps.flatMap TriplePattern.terms) :=
  visitAll_row (fun _ t => r.resolveTerm t) () ps

theorem resolvePatterns_again (r : Resolver) (ps : List TriplePattern) :
    r.resolvePatterns (r.resolvePatterns ps).result = r.resolvePatterns ps := by
  have first := r.resolvePatterns_scan ps
  have second := r.resolvePatterns_scan (r.resolvePatterns ps).result
  have left := congrArg Pass.result first
  rw [show (r.resolvePatterns ps).result.flatMap TriplePattern.terms = _ from left,
    r.scan_again, ← first] at second
  have terms := flatMap_terms_injective (congrArg Pass.result second)
  have failure := congrArg Pass.failure second
  generalize r.resolvePatterns (r.resolvePatterns ps).result = again at terms failure ⊢
  obtain ⟨result, _, failure'⟩ := again
  obtain rfl : result = _ := terms
  obtain rfl : failure' = _ := failure
  rfl

/-- A run over an expression puts what the run over its leaves leaves in their place. -/
theorem resolveExpression_scan (r : Resolver) (e : Expression) :
    r.resolveExpression e =
      (r.scan e.leaves).mapResult fun us => e.graft (us.map Expression.leaf) := by
  rw [resolveExpression, Expression.visitLeaves_row]
  have changed : Pass.row (fun _ t => (r.resolveTerm t).mapResult Expression.leaf)
      Expression.leaf () e.leaves = (r.scan e.leaves).mapResult (List.map Expression.leaf) :=
    Pass.row_mapResult Expression.leaf () e.leaves
  exact congrArg (Pass.mapResult e.graft) changed

theorem length_scan (r : Resolver) (ts : List PatternTerm) :
    (r.scan ts).result.length = ts.length :=
  Pass.length_row () ts

theorem leaves_resolveExpression (r : Resolver) (e : Expression) :
    (r.resolveExpression e).result.leaves = (r.scan e.leaves).result := by
  rw [resolveExpression_scan]
  have size : ((r.scan e.leaves).result.map Expression.leaf).length = e.leaves.length := by
    rw [List.length_map, length_scan]
  refine (e.leaves_graft size).trans ?_
  rw [List.flatMap_map]
  exact List.flatMap_singleton' _

theorem skeleton_resolveExpression (r : Resolver) (e : Expression) :
    (r.resolveExpression e).result.skeleton = e.skeleton := by
  have filled : ∀ us : List PatternTerm, us.length = e.leaves.length →
      (e.graft (us.map Expression.leaf)).skeleton =
        e.graft (List.replicate e.leaves.length (.leaf (.named ""))) := by
    intro us size
    rw [Expression.skeleton, e.map_graft _ (by rw [List.length_map, size]), List.map_map, ← size]
    exact congrArg e.graft List.map_const
  rw [resolveExpression_scan]
  refine (filled _ (r.length_scan _)).trans ?_
  rw [← filled e.leaves rfl, e.graft_leaves]

theorem resolveExpression_again (r : Resolver) (e : Expression) :
    r.resolveExpression (r.resolveExpression e).result = r.resolveExpression e := by
  have leaves := r.leaves_resolveExpression e
  have again : r.scan (r.resolveExpression e).result.leaves = r.scan e.leaves := by
    rw [leaves, r.scan_again]
  rw [r.resolveExpression_scan (r.resolveExpression e).result, again]
  have failure := congrArg Pass.failure (r.resolveExpression_scan e)
  have result := Expression.graft_leaves (r.resolveExpression e).result
  rw [leaves] at result
  exact congr (congrArg (Pass.mk · ()) result) failure.symm

/-- **Resolving is idempotent**, in success and in failure: a second run comes to the same as
the first and changes nothing.  The first has replaced all names, or those in front of the
first name without an IRI; patterns stay as many, and operators as they are. -/
theorem resolution_idempotent (r : Resolver) :
    (∀ ps : List TriplePattern,
      r.resolvePatterns (r.resolvePatterns ps).result = r.resolvePatterns ps ∧
      r.Scanned (ps.flatMap TriplePattern.terms) (r.resolvePatterns ps).failure
        ((r.resolvePatterns ps).result.flatMap TriplePattern.terms) ∧
      (r.resolvePatterns ps).result.length = ps.length) ∧
    ∀ e : Expression,
      r.resolveExpression (r.resolveExpression e).result = r.resolveExpression e ∧
      r.Scanned e.leaves (r.resolveExpression e).failure (r.resolveExpression e).result.leaves ∧
      (r.resolveExpression e).result.skeleton = e.skeleton := by
  constructor
  · intro ps
    have scanned := r.scan_scanned (ps.flatMap TriplePattern.terms)
    rw [← resolvePatterns_scan] at scanned
    exact ⟨r.resolvePatterns_again ps, scanned, Pass.length_list () ps⟩
  · intro e
    have scanned := r.scan_scanned e.leaves
    rw [← leaves_resolveExpression] at scanned
    have failure := congrArg Pass.failure (r.resolveExpression_scan e)
    refine ⟨r.resolveExpression_again e, ?_, r.skeleton_resolveExpression e⟩
    rw [failure]
    exact scanned

end Resolver

end GraphPattern
