/-
Names in patterns and constraints, and the IRIs that they stand for.

Prefixed names are expanded by the declarations of a query and references are
resolved against its base.  Whatever is resolved already, or is a variable, stays
as it is, so that a second run changes nothing.
-/
import GraphPattern.Rdf.Namespaces
import GraphPattern.Query.Error
import GraphPattern.Query.Pass

namespace GraphPattern

/-- The declarations and the base that names are resolved by. -/
structure Resolver where
  namespaces : Namespaces
  base : Option String
deriving DecidableEq, Repr

namespace Resolver

/-- The resolver for the declarations of a query, behind the common ones if they
are asked for. -/
def ofDeclarations (declarations : List PrefixDeclaration) (common : Bool)
    (base : Option String) : Resolver :=
  let start := if common then Namespaces.common else Namespaces.empty
  ⟨⟨start.declarations ++ declarations⟩, base⟩

def checkIri (s : String) : Except QueryError Iri :=
  match Iri.ofText s with
  | .ok iri => .ok iri
  | .error fault => .error (.invalidIri (TermError.invalidIri fault).message)

def expandQname (r : Resolver) (qname : String) : Except QueryError Iri :=
  match splitQname qname with
  | none => .error (.invalidIri qname)
  | some (name, _) =>
    match r.namespaces.expand qname with
    | .error (.unknownPrefix _) => .error (.undeclaredPrefix name qname)
    | .error (.invalidIri detail) => .error (.invalidIri detail)
    | .ok s => checkIri s

def resolveReference (r : Resolver) (reference : String) : Except QueryError Iri :=
  match Iri.resolve r.base reference with
  | .error e => .error (.invalidIri e.message)
  | .ok s => checkIri s

/-- The IRI that a name stands for; nothing for what is no name. -/
def nameIri? (r : Resolver) : PatternTerm → Option (Except QueryError Iri)
  | .qname s => some (r.expandQname s)
  | .reference s => some (r.resolveReference s)
  | _ => none

def resolveTerm (r : Resolver) (t : PatternTerm) : Pass Unit QueryError PatternTerm :=
  match r.nameIri? t with
  | none => ⟨t, (), none⟩
  | some (.ok iri) => ⟨.term (.iri iri), (), none⟩
  | some (.error e) => ⟨t, (), some e⟩

/-- Replaces the names in patterns, up to the first that has no IRI. -/
def resolvePatterns (r : Resolver) (patterns : List TriplePattern) :
    Pass Unit QueryError (List TriplePattern) :=
  Pass.list (fun s p => p.visit (fun _ t => r.resolveTerm t) s) () patterns

/-- Replaces the names in a constraint, up to the first that has no IRI. -/
def resolveExpression (r : Resolver) (e : Expression) : Pass Unit QueryError Expression :=
  e.visitLeaves (fun _ t => (r.resolveTerm t).mapResult Expression.leaf) ()

/-- Replaces the names in constraints in turn. -/
def resolveExpressions (r : Resolver) (es : List Expression) :
    Pass Unit QueryError (List Expression) :=
  Pass.list (fun _ e => r.resolveExpression e) () es

end Resolver

end GraphPattern
