/-
Solutions: one row of values for the select variables.
-/
import GraphPattern.Query.VariableTable

namespace GraphPattern

/-- The select variables in select order, each with a term or without a value. -/
structure Solution where
  bindings : OrderedMap String (Option Term)
deriving DecidableEq

namespace Solution

def empty : Solution := ⟨.empty⟩

/-- Adds a variable at the end, or gives one that is there a new value. -/
def push (s : Solution) (name : String) (value : Option Term) : Solution :=
  ⟨s.bindings.insert name value⟩

def get? (s : Solution) (name : String) : Option Term := (s.bindings.get? name).join

def isBound (s : Solution) (name : String) : Bool := (s.get? name).isSome

/-- The number of variables, with or without a value. -/
def size (s : Solution) : Nat := s.bindings.entries.length

def names (s : Solution) : List String := s.bindings.keys

def values (s : Solution) : List (Option Term) := s.bindings.values

/-- The row that the select variables of a table make up. -/
def ofTable (t : VariableTable) : Solution :=
  t.selected.foldl (fun s v => s.push v.name v.value) empty

end Solution

end GraphPattern
