/-
Patterns as front-ends write them.

A position of a pattern is a term, a name that still has to be resolved, or a
variable: by name before variables are assigned, by its slot after that.
-/
import GraphPattern.Rdf.Triple

namespace GraphPattern

/-- The place of a variable in the variable table of its query. -/
structure VarId where
  index : Nat
deriving DecidableEq, Repr

def VarId.text (id : VarId) : String := "#" ++ toString id.index

/-- One position of a pattern, and one leaf of a constraint. -/
inductive PatternTerm where
  /-- A resolved term. -/
  | term (term : Term)
  /-- An IRI reference, possibly relative to the base of the query. -/
  | reference (text : String)
  /-- A prefixed name. -/
  | qname (text : String)
  /-- A variable by name. -/
  | named (name : String)
  /-- A variable by its place in the table. -/
  | slot (id : VarId)
deriving DecidableEq

namespace PatternTerm

/-- Whether a position holds a variable, by name or by slot. -/
def isVariable : PatternTerm → Bool
  | named _ | slot _ => true
  | _ => false

def slot? : PatternTerm → Option VarId
  | slot id => some id
  | _ => none

def text : PatternTerm → String
  | term t => t.text
  | reference s => "<" ++ s ++ ">"
  | qname s => s
  | named name => "?" ++ name
  | slot id => "?" ++ id.text

end PatternTerm

/-- A pattern that triples may match. -/
structure TriplePattern where
  subject : PatternTerm
  predicate : PatternTerm
  object : PatternTerm
deriving DecidableEq

/-- Adds an element at the end of a list that does not have it. -/
def insertNew {α : Type} [DecidableEq α] (xs : List α) (x : α) : List α :=
  if x ∈ xs then xs else xs ++ [x]

namespace TriplePattern

/-- The positions in subject, predicate, object order. -/
def terms (p : TriplePattern) : List PatternTerm := [p.subject, p.predicate, p.object]

def term (p : TriplePattern) : Position → PatternTerm
  | .subject => p.subject
  | .predicate => p.predicate
  | .object => p.object

/-- No position holds a variable. -/
def isExact (p : TriplePattern) : Bool := p.terms.all fun t => !t.isVariable

/-- The slots of a pattern, each once, in the order of first occurrence. -/
def slots (p : TriplePattern) : List VarId :=
  (p.terms.filterMap PatternTerm.slot?).foldl insertNew []

def text (p : TriplePattern) : String :=
  "(" ++ p.subject.text ++ " " ++ p.predicate.text ++ " " ++ p.object.text ++ ")"

end TriplePattern

end GraphPattern
