/-
A store of triples.

The triples are kept in the order in which they came, each once.  Three indices
list them by subject, predicate and object, and every named graph lists its own.
`Store.select` scans the shortest index list of the fixed positions.
-/
import GraphPattern.OrderedMap
import GraphPattern.Rdf.Triple

namespace GraphPattern

/-- Why a store refused an operation. -/
inductive StoreError where
  | tripleNotFound
  | graphNotFound (graph : String)
  | duplicateTriple
deriving DecidableEq, Repr

def StoreError.message : StoreError → String
  | .tripleNotFound => "Triple not found"
  | .graphNotFound graph => "Graph not found: " ++ graph
  | .duplicateTriple => "Duplicate triple"

abbrev TripleIndex (κ : Type) := OrderedMap κ (List Triple)

/-- Puts a triple at the end of a list that does not have it. -/
def appendNew (triples : List Triple) (t : Triple) : List Triple :=
  if t ∈ triples then triples else triples ++ [t]

namespace TripleIndex

variable {κ : Type} [DecidableEq κ]

/-- Lists a triple under a key. -/
def add (index : TripleIndex κ) (key : κ) (t : Triple) : TripleIndex κ :=
  index.insert key (appendNew ((index.get? key).getD []) t)

/-- Takes a triple off the list of a key; a list that becomes empty goes. -/
def remove (index : TripleIndex κ) (key : κ) (t : Triple) : TripleIndex κ :=
  match index.get? key with
  | none => index
  | some triples =>
    let left := triples.erase t
    if left.isEmpty then index.erase key else index.insert key left

end TripleIndex

/-- Triples, their three indices and the named graphs. -/
structure Store where
  triples : List Triple
  bySubject : TripleIndex Subject
  byPredicate : TripleIndex Iri
  byObject : TripleIndex Term
  graphs : TripleIndex String

namespace Store

def empty : Store := ⟨[], .empty, .empty, .empty, .empty⟩

def size (s : Store) : Nat := s.triples.length

def contains (s : Store) (t : Triple) : Bool := decide (t ∈ s.triples)

/-- Adds a triple that is not there, to the list and to every index. -/
def push (s : Store) (t : Triple) : Store :=
  { s with
    triples := s.triples ++ [t]
    bySubject := s.bySubject.add t.subject t
    byPredicate := s.byPredicate.add t.predicate t
    byObject := s.byObject.add t.object t }

/-- Adds a triple, which must be new, and says if it is not. -/
def insert (s : Store) (t : Triple) : Option StoreError × Store :=
  if t ∈ s.triples then (some .duplicateTriple, s) else (none, s.push t)

/-- Adds a triple that may be there, and lists it in its graph. -/
def insertQuad (s : Store) (q : Quad) : Store :=
  let s := if q.triple ∈ s.triples then s else s.push q.triple
  match q.graph with
  | none => s
  | some graph => { s with graphs := s.graphs.add graph.text q.triple }

/-- Takes a triple out of the list, the indices and every graph, and says if it is not
there.  A graph that becomes empty stays. -/
def remove (s : Store) (t : Triple) : Option StoreError × Store :=
  if t ∈ s.triples then
    (none,
      { triples := s.triples.erase t
        bySubject := s.bySubject.remove t.subject t
        byPredicate := s.byPredicate.remove t.predicate t
        byObject := s.byObject.remove t.object t
        graphs := s.graphs.mapValues fun triples => triples.erase t })
  else (some .tripleNotFound, s)

def clear (_ : Store) : Store := empty

/-- The index lists of the fixed positions; a fixed position without a list gives
`none`. -/
def indexLists (s : Store) (p : TripleSelector) : List (Option (List Triple)) :=
  (p.subject.map s.bySubject.get?).toList ++ (p.predicate.map s.byPredicate.get?).toList ++
    (p.object.map s.byObject.get?).toList

/-- The first of the shortest lists; `best` is the shortest so far. -/
def shortest (best : List Triple) : List (List Triple) → List Triple
  | [] => best
  | triples :: rest =>
    shortest (if triples.length < best.length then triples else best) rest

/-- The triples to scan: none if a fixed position has no list, all of them if no
position is fixed. -/
def candidates (s : Store) (lists : List (Option (List Triple))) : List Triple :=
  match lists.mapM id with
  | none => []
  | some [] => s.triples
  | some (triples :: rest) => shortest triples rest

/-- The triples that agree with a selector, in the order in which they came. -/
def select (s : Store) (p : TripleSelector) : List Triple :=
  (s.candidates (s.indexLists p)).filter p.selects

def graph (s : Store) (name : String) : Except StoreError (List Triple) :=
  match s.graphs.get? name with
  | some triples => .ok triples
  | none => .error (.graphNotFound name)

def graphNames (s : Store) : List String := s.graphs.keys

end Store

end GraphPattern
