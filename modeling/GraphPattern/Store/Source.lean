/-
Where the triples of a join come from.

A source answers a selector with a list of candidates, which are read through a
cursor, or with a fault.  A whole store is a source, and so is its view through
some of its graphs.
-/
import GraphPattern.Store.Basic

namespace GraphPattern

/-- Why candidates could not be had. -/
inductive MatchError where
  | store (selector reason : String)
  | closed
deriving DecidableEq, Repr

def MatchError.message : MatchError → String
  | .store selector reason => "Store failure while matching " ++ selector ++ ": " ++ reason
  | .closed => "Cursor already closed"

/-- A cursor over candidates: those that are left, the current one first. -/
structure Cursor where
  rest : List Triple
  closed : Bool
deriving DecidableEq

namespace Cursor

def ofList (triples : List Triple) : Cursor := ⟨triples, false⟩

def current (c : Cursor) : Option Triple := c.rest.head?

def isExhausted (c : Cursor) : Bool := c.rest.isEmpty

/-- Moves to the next candidate; at the end it stays there. -/
def advance (c : Cursor) : Except MatchError Cursor :=
  if c.closed then .error .closed else .ok { c with rest := c.rest.drop 1 }

/-- Gives up what is left. -/
def close (_ : Cursor) : Cursor := ⟨[], true⟩

end Cursor

/-- Candidates for a selector, or a fault. -/
abbrev TripleSource := TripleSelector → Except MatchError (List Triple)

def Store.source (s : Store) : TripleSource := fun p => .ok (s.select p)

/-- A store seen through some of its graphs. -/
structure GraphScope where
  store : Store
  graphs : List (List Triple)
  wholeStore : Bool

/-- The view through named graphs; a name that is not known adds nothing, and no
name at all means the whole store. -/
def Store.scoped (s : Store) (names : List String) : GraphScope :=
  ⟨s, names.filterMap s.graphs.get?, names.isEmpty⟩

/-- Triples of several lists, each once, in the order of first occurrence. -/
def distinctTriples (triples : List Triple) : List Triple := triples.foldl appendNew []

def GraphScope.select (g : GraphScope) (p : TripleSelector) : List Triple :=
  if g.wholeStore then g.store.select p
  else distinctTriples (g.graphs.flatten.filter p.selects)

def GraphScope.source (g : GraphScope) : TripleSource := fun p => .ok (g.select p)

end GraphPattern
