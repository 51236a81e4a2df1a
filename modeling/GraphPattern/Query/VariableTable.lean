/-
The variables of a query.

A table lists the variables with their values.  The select variables come first,
in select order; the internal ones follow as they are found.  A map leads from
names to places.
-/
import GraphPattern.OrderedMap
import GraphPattern.Query.Pattern
import GraphPattern.Query.Error

namespace GraphPattern

/-- A variable and the value that it has at the moment. -/
structure Variable where
  name : String
  id : VarId
  selected : Bool
  value : Option Term
deriving DecidableEq

/-- Variables, their places by name, and the number of select variables. -/
structure VariableTable where
  entries : List Variable
  byName : OrderedMap String VarId
  selectCount : Nat
deriving DecidableEq

namespace VariableTable

def empty : VariableTable := ⟨[], .empty, 0⟩

def size (t : VariableTable) : Nat := t.entries.length

def find? (t : VariableTable) (name : String) : Option VarId := t.byName.get? name

def push (t : VariableTable) (name : String) (selected : Bool) : VariableTable :=
  let id : VarId := ⟨t.size⟩
  { entries := t.entries ++ [⟨name, id, selected, none⟩]
    byName := t.byName.insert name id
    selectCount := if selected then t.selectCount + 1 else t.selectCount }

/-- Adds a variable.  Its name must be new, and a select variable cannot follow an
internal one. -/
def declare (t : VariableTable) (name : String) (selected : Bool) :
    Except QueryError VarId × VariableTable :=
  if (t.find? name).isSome then (.error (.duplicateVariable name), t)
  else if selected && t.selectCount != t.size then
    (.error (.duplicateVariable
      (name ++ " (select variable declared after internal variables)")), t)
  else (.ok ⟨t.size⟩, t.push name selected)

/-- The place of a name, as a new internal variable if need be. -/
def getOrDeclare (t : VariableTable) (name : String) : Except QueryError VarId × VariableTable :=
  match t.find? name with
  | some id => (.ok id, t)
  | none => t.declare name false

def get? (t : VariableTable) (id : VarId) : Option Variable := t.entries[id.index]?

def value (t : VariableTable) (id : VarId) : Option Term := (t.get? id).bind (·.value)

/-- Changes the value in a place; a place that is not in the table is ignored. -/
def setValue (t : VariableTable) (id : VarId) (value : Option Term) : VariableTable :=
  { t with entries := t.entries.modify id.index fun v => { v with value := value } }

def bind (t : VariableTable) (id : VarId) (value : Term) : VariableTable :=
  t.setValue id (some value)

def unbind (t : VariableTable) (id : VarId) : VariableTable := t.setValue id none

def reset (t : VariableTable) : VariableTable :=
  { t with entries := t.entries.map fun v => { v with value := none } }

def selected (t : VariableTable) : List Variable := t.entries.take t.selectCount

end VariableTable

end GraphPattern
