/-
# Which declarations names are resolved by

Resolving looks prefixes up, and that is all it does with the declarations.  Two resolvers in
which every lookup comes to the same therefore do the same to patterns and to expressions, in
success and in failure: the last declaration of each prefix is enough, and the common prefixes
are hidden by those of the query, which stand behind them.

A prefixed name is refused for its prefix exactly if what stands in front of its first colon
is declared nowhere (`Undeclared`), wherever in a pattern or an expression the name occurs.
-/
import GraphPattern.Proofs.Query.Resolution
import GraphPattern.Proofs.Rdf.Namespaces

namespace GraphPattern

namespace Resolver

open PrefixDeclaration

variable {r r' : Resolver} {ds : List PrefixDeclaration} {name q : String}

/-! ## Equal lookups -/

section Lookups

variable (lookups : r.namespaces.find? = r'.namespaces.find?) (base : r.base = r'.base)

include lookups

theorem expandQname_congr : r.expandQname = r'.expandQname := by
  have get : r.namespaces.get = r'.namespaces.get := by
    funext name
    simp only [Namespaces.get, lookups]
  funext q
  simp only [expandQname, Namespaces.expand, get]

include base

theorem resolveTerm_congr : r.resolveTerm = r'.resolveTerm := by
  funext t
  have names : r.nameIri? t = r'.nameIri? t := by
    cases t with
    | qname s => exact congrArg some (congrFun (expandQname_congr lookups) s)
    | reference s => simp only [nameIri?, resolveReference, base]
    | term _ | named _ | slot _ => rfl
  simp only [resolveTerm, names]

/-- **Resolvers in which every lookup comes to the same do the same.** -/
theorem resolve_congr (ps : List TriplePattern) (e : Expression) :
    r.resolvePatterns ps = r'.resolvePatterns ps ∧
      r.resolveExpression e = r'.resolveExpression e := by
  have terms := resolveTerm_congr lookups base
  constructor
  · simp only [resolvePatterns, terms]
  · simp only [resolveExpression, terms]

end Lookups

/-! ## The declarations of a query and the common ones -/

/-- The declarations in effect: those of a query, behind the common ones if they are asked
for. -/
def inEffect (ds : List PrefixDeclaration) (common : Bool) : List PrefixDeclaration :=
  (if common then Namespaces.common.declarations else []) ++ ds

theorem ofDeclarations_eq (ds : List PrefixDeclaration) (common : Bool) (base : Option String) :
    ofDeclarations ds common base = ⟨⟨inEffect ds common⟩, base⟩ := by
  cases common <;> rfl

theorem find?_inEffect (ds : List PrefixDeclaration) (common : Bool) (name : String) :
    (Namespaces.mk (inEffect ds common)).find? name =
      ((Namespaces.mk ds).find? name).or
        ((Namespaces.mk (if common then Namespaces.common.declarations else [])).find? name) :=
  Namespaces.find?_append _ ds name

/-! ## Prefixes that are declared nowhere -/

/-- A prefixed name whose prefix, which ends at the first colon, is declared nowhere. -/
structure Undeclared (ds : List PrefixDeclaration) (name q : String) : Prop where
  cut : ∃ localName, q = name ++ ":" ++ localName
  first : ':' ∉ name.toList
  nowhere : ∀ d ∈ ds, d.name ≠ name

/-- A name is cut at its first colon, and nowhere else. -/
theorem undeclared_iff {front localName : String} (free : ':' ∉ front.toList) :
    Undeclared ds name (front ++ ":" ++ localName) ↔
      name = front ∧ ∀ d ∈ ds, d.name ≠ front := by
  constructor
  · rintro ⟨⟨rest, parts⟩, first, nowhere⟩
    have cut := splitQname_eq_some.mpr ⟨parts, first⟩
    rw [splitQname_eq_some.mpr ⟨rfl, free⟩] at cut
    cases cut
    exact ⟨rfl, nowhere⟩
  · rintro ⟨rfl, nowhere⟩
    exact ⟨⟨localName, rfl⟩, free, nowhere⟩

theorem expandQname_of_find? {iri : String} (free : ':' ∉ name.toList)
    (found : r.namespaces.find? name = some iri) (localName : String) :
    r.expandQname (name ++ ":" ++ localName) = checkIri (iri ++ localName) := by
  rw [expandQname, splitQname_eq_some.mpr ⟨rfl, free⟩]
  dsimp only
  rw [r.namespaces.expand_qname free, Namespaces.get, found]
  rfl

theorem expandQname_of_find?_none (free : ':' ∉ name.toList)
    (absent : r.namespaces.find? name = none) (localName : String) :
    r.expandQname (name ++ ":" ++ localName) =
      .error (.undeclaredPrefix name (name ++ ":" ++ localName)) := by
  rw [expandQname, splitQname_eq_some.mpr ⟨rfl, free⟩]
  dsimp only
  rw [r.namespaces.expand_qname free, Namespaces.get, absent]
  rfl

theorem checkIri_ne_undeclared {s : String} : checkIri s ≠ .error (.undeclaredPrefix name q) := by
  intro refused
  unfold checkIri at refused
  split at refused
  · cases refused
  · cases refused

/-- **A prefixed name is refused for its prefix exactly if that is declared nowhere.** -/
theorem expandQname_undeclared {qname : String} :
    r.expandQname q = .error (.undeclaredPrefix name qname) ↔
      qname = q ∧ Undeclared r.namespaces.declarations name q := by
  cases cut : splitQname q with
  | none =>
      have refused : r.expandQname q = .error (.invalidIri q) := by rw [expandQname, cut]
      rw [refused]
      refine iff_of_false nofun ?_
      rintro ⟨-, ⟨localName, parts⟩, first, -⟩
      rw [splitQname_eq_some.mpr ⟨parts, first⟩] at cut
      cases cut
  | some parts =>
      obtain ⟨front, localName⟩ := parts
      obtain ⟨rfl, free⟩ := splitQname_eq_some.mp cut
      rw [undeclared_iff free]
      cases found : r.namespaces.find? front with
      | none =>
          rw [expandQname_of_find?_none free found]
          constructor
          · intro refused
            cases refused
            exact ⟨rfl, rfl, Namespaces.find?_eq_none.mp found⟩
          · rintro ⟨rfl, rfl, -⟩
            rfl
      | some iri =>
          rw [expandQname_of_find? free found]
          refine iff_of_false checkIri_ne_undeclared ?_
          rintro ⟨-, -, nowhere⟩
          exact nowhere _ (Namespaces.find?_eq_some.mp found).mem rfl

theorem failure?_undeclared {t : PatternTerm} :
    r.failure? t = some (.undeclaredPrefix name q) ↔
      t = .qname q ∧ Undeclared r.namespaces.declarations name q := by
  rw [failure?_eq_some]
  cases t with
  | qname s =>
      have answer : r.nameIri? (.qname s) = some (r.expandQname s) := rfl
      rw [answer, Option.some.injEq, expandQname_undeclared, PatternTerm.qname.injEq]
      constructor
      · rintro ⟨rfl, undeclared⟩
        exact ⟨rfl, undeclared⟩
      · rintro ⟨rfl, undeclared⟩
        exact ⟨rfl, undeclared⟩
  | reference s =>
      refine iff_of_false (fun refused => ?_) nofun
      have refused : r.resolveReference s = .error (.undeclaredPrefix name q) :=
        Option.some.inj refused
      unfold resolveReference at refused
      split at refused
      · cases refused
      · exact checkIri_ne_undeclared refused
  | term _ | named _ | slot _ => exact iff_of_false nofun nofun

/-- A run over terms is stopped by a prefix that is declared nowhere: all names before it have
an IRI. -/
def StoppedAt (r : Resolver) (terms : List PatternTerm) (name q : String) : Prop :=
  ∃ front rest, terms = front ++ .qname q :: rest ∧ (∀ t ∈ front, r.Resolves t) ∧
    Undeclared r.namespaces.declarations name q

theorem findSome?_undeclared {terms : List PatternTerm} :
    terms.findSome? r.failure? = some (.undeclaredPrefix name q) ↔
      r.StoppedAt terms name q := by
  rw [List.findSome?_eq_some_iff]
  simp only [failure?_undeclared, failure?_eq_none]
  constructor
  · rintro ⟨front, t, rest, split, ⟨rfl, undeclared⟩, before⟩
    exact ⟨front, rest, split, before, undeclared⟩
  · rintro ⟨front, rest, split, before, undeclared⟩
    exact ⟨front, _, rest, split, ⟨rfl, undeclared⟩, before⟩

theorem resolvePatterns_undeclared (ps : List TriplePattern) :
    (r.resolvePatterns ps).failure = some (.undeclaredPrefix name q) ↔
      r.StoppedAt (ps.flatMap TriplePattern.terms) name q := by
  have first : (r.resolvePatterns ps).failure = _ := r.resolvePatterns_failsFirst ps
  rw [first, findSome?_undeclared]

theorem resolveExpression_undeclared (e : Expression) :
    (r.resolveExpression e).failure = some (.undeclaredPrefix name q) ↔
      r.StoppedAt e.leaves name q := by
  have first : (r.resolveExpression e).failure = _ :=
    Expression.visitLeaves_failsFirst
      (fun _ t => (r.resolveTerm_failsFirst t).mapResult Expression.leaf) e ()
  rw [first, findSome?_undeclared]

/-! ## The last declaration counts -/

/-- **Only the last declaration of each prefix counts.**  The declarations that count resolve
patterns and expressions as all of them do, in any order.  Common prefixes are declared before
those of the query, and so the last declaration in the query gives a prefix its namespace,
common or not.  A name is refused for its prefix exactly if the text in front of its first
colon is not declared, and a run stops at the first such name unless another one stops it
earlier. -/
theorem last_declaration_counts (ds : List PrefixDeclaration) (common : Bool)
    (base : Option String) :
    (∀ kept : List PrefixDeclaration, kept.Perm (lastOfEach ds) → ∀ ps e,
      (ofDeclarations kept common base).resolvePatterns ps =
          (ofDeclarations ds common base).resolvePatterns ps ∧
        (ofDeclarations kept common base).resolveExpression e =
          (ofDeclarations ds common base).resolveExpression e) ∧
    (∀ ps e,
      (ofDeclarations ds true base).resolvePatterns ps =
          (ofDeclarations (Namespaces.common.declarations ++ ds) false base).resolvePatterns ps ∧
        (ofDeclarations ds true base).resolveExpression e =
          (ofDeclarations (Namespaces.common.declarations ++ ds) false base).resolveExpression e) ∧
    (∀ d : PrefixDeclaration, d.LastIn ds → ':' ∉ d.name.toList → ∀ localName,
      (ofDeclarations ds common base).expandQname (d.name ++ ":" ++ localName) =
        checkIri (d.iri ++ localName)) ∧
    (∀ name localName, ':' ∉ name.toList → ∀ x y,
      (ofDeclarations ds common base).expandQname (name ++ ":" ++ localName) =
          .error (.undeclaredPrefix x y) ↔
        x = name ∧ y = name ++ ":" ++ localName ∧ ∀ d ∈ inEffect ds common, d.name ≠ name) ∧
    ∀ name q,
      (∀ ps, ((ofDeclarations ds common base).resolvePatterns ps).failure =
          some (.undeclaredPrefix name q) ↔
        (ofDeclarations ds common base).StoppedAt (ps.flatMap TriplePattern.terms) name q) ∧
      ∀ e, ((ofDeclarations ds common base).resolveExpression e).failure =
          some (.undeclaredPrefix name q) ↔
        (ofDeclarations ds common base).StoppedAt e.leaves name q := by
  refine ⟨?_, ?_, ?_, ?_, ?_⟩
  · intro kept perm ps e
    rw [ofDeclarations_eq, ofDeclarations_eq]
    apply resolve_congr
    · funext name
      rw [find?_inEffect, find?_inEffect, Namespaces.find?_of_perm perm]
    · rfl
  · intro ps e
    have same : ofDeclarations ds true base =
        ofDeclarations (Namespaces.common.declarations ++ ds) false base := rfl
    rw [same]
    exact ⟨rfl, rfl⟩
  · intro d last free localName
    have found : (Namespaces.mk ds).find? d.name = some d.iri := Namespaces.find?_eq_some.mpr last
    rw [ofDeclarations_eq]
    refine expandQname_of_find? free ?_ localName
    rw [find?_inEffect, found, Option.some_or]
  · intro name localName free x y
    rw [expandQname_undeclared, undeclared_iff free, ofDeclarations_eq]
    exact and_left_comm
  · intro name q
    exact ⟨resolvePatterns_undeclared, resolveExpression_undeclared⟩

/-- A common prefix is declared as another one, and `ex` is declared twice. -/
def repeatedDeclarations : List PrefixDeclaration :=
  [⟨"rdf", "http://example.org/not-rdf#"⟩, ⟨"ex", "http://example.org/one/"⟩,
    ⟨"ex", "http://example.org/two/"⟩]

/-- The two declarations that count do as well, the other way round; a local name may hold
colons. -/
theorem repeatedDeclarations_count :
    let r := ofDeclarations repeatedDeclarations true none
    (∀ ps, (ofDeclarations [⟨"ex", "http://example.org/two/"⟩,
        ⟨"rdf", "http://example.org/not-rdf#"⟩] true none).resolvePatterns ps =
      r.resolvePatterns ps) ∧
    r.expandQname "rdf:type" = checkIri "http://example.org/not-rdf#type" ∧
    r.expandQname "ux:a:b" = .error (.undeclaredPrefix "ux" "ux:a:b") := by
  obtain ⟨kept, -, counts, refused, -⟩ := last_declaration_counts repeatedDeclarations true none
  refine ⟨fun ps => (kept _ (by decide +kernel) ps (.leaf (.named "x"))).1, ?_, ?_⟩
  · exact counts ⟨"rdf", "http://example.org/not-rdf#"⟩ (mem_lastOfEach.mp (by decide +kernel))
      (by decide +kernel) "type"
  · exact (refused "ux" "a:b" (by decide +kernel) _ _).mpr ⟨rfl, rfl, by decide +kernel⟩

end Resolver

end GraphPattern
