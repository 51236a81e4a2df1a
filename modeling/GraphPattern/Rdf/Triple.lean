/-
Triples, quads and the selectors that pick triples out of a store.
-/
import GraphPattern.Rdf.Written

namespace GraphPattern

/-- The three positions of a triple. -/
inductive Position where
  | subject
  | predicate
  | object
deriving DecidableEq, Repr

namespace Position

/-- The positions in the order they are written. -/
def all : List Position := [subject, predicate, object]

def text : Position → String
  | subject => "subject"
  | predicate => "predicate"
  | object => "object"

end Position

/-- Why a term could not be built or placed. -/
inductive TermError where
  | invalidIri (fault : Iri.Fault)
  | invalidBlankNode
  | invalidLiteral (fault : LanguageTag.Fault)
  | invalidPosition (term : Term) (position : Position)
deriving DecidableEq

def TermError.message : TermError → String
  | .invalidIri fault => "Invalid IRI: " ++ fault.message
  | .invalidBlankNode => "Invalid blank node: The blank node identifier is invalid"
  | .invalidLiteral fault => "Invalid literal: " ++ fault.message
  | .invalidPosition term position =>
    term.text ++ " cannot be used as a " ++ position.text

namespace Term

def ofIriText (s : String) : Except TermError Iri :=
  (Iri.ofText s).mapError .invalidIri

def ofBlankId (s : String) : Except TermError BlankNode :=
  match BlankNode.ofId? s with
  | some b => .ok b
  | none => .error .invalidBlankNode

def ofTagged (value tag : String) : Except TermError Literal :=
  match LanguageTag.ofText tag with
  | .ok tag => .ok (.tagged value tag)
  | .error fault => .error (.invalidLiteral fault)

def asSubject (t : Term) : Except TermError Subject :=
  match t.subject? with
  | some s => .ok s
  | none => .error (.invalidPosition t .subject)

def asPredicate (t : Term) : Except TermError Iri :=
  match t.predicate? with
  | some p => .ok p
  | none => .error (.invalidPosition t .predicate)

end Term

/-- A triple: the subject is no literal and the predicate is an IRI. -/
structure Triple where
  subject : Subject
  predicate : Iri
  object : Term
deriving DecidableEq

namespace Triple

/-- The triple of three terms; the subject is checked first. -/
def ofTerms (s p o : Term) : Except TermError Triple := do
  let subject ← s.asSubject
  let predicate ← p.asPredicate
  return ⟨subject, predicate, o⟩

def term (t : Triple) : Position → Term
  | .subject => t.subject.term
  | .predicate => .iri t.predicate
  | .object => t.object

def text (t : Triple) : String :=
  t.subject.text ++ " " ++ t.predicate.bracketed ++ " " ++ t.object.text ++ " ."

end Triple

/-- A triple in a named graph, or in none. -/
structure Quad where
  triple : Triple
  graph : Option Iri
deriving DecidableEq

/-- Picks out triples: each position is fixed or open. -/
structure TripleSelector where
  subject : Option Subject
  predicate : Option Iri
  object : Option Term
deriving DecidableEq

namespace TripleSelector

/-- No position is open. -/
def isExact (s : TripleSelector) : Bool :=
  s.subject.isSome && s.predicate.isSome && s.object.isSome

/-- Whether an open or fixed position admits a value. -/
def admits {α : Type} [DecidableEq α] (fixed : Option α) (value : α) : Bool :=
  match fixed with
  | none => true
  | some x => x = value

/-- Whether a triple agrees with every fixed position. -/
def selects (s : TripleSelector) (t : Triple) : Bool :=
  admits s.subject t.subject && admits s.predicate t.predicate && admits s.object t.object

/-- The text of a selector: an open position is an underscore. -/
def text (s : TripleSelector) : String :=
  "(" ++ (s.subject.map Subject.text).getD "_" ++ " " ++
    (s.predicate.map Iri.bracketed).getD "_" ++ " " ++
    (s.object.map Term.text).getD "_" ++ ")"

end TripleSelector

end GraphPattern
