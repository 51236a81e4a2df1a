/-
Assignment of variables to slots.

The select list is read first, then the patterns, then the constraints; every new
name takes the next place of the table, and every named occurrence is replaced by
its slot.
-/
import GraphPattern.Query.Pass
import GraphPattern.Query.VariableTable

namespace GraphPattern

namespace Assignment

def namesOf : PatternTerm → List String
  | .named name => [name]
  | _ => []

/-- The names of the variables in patterns, in the order they are written. -/
def patternNames (patterns : List TriplePattern) : List String :=
  patterns.flatMap fun p => p.terms.flatMap namesOf

/-- The table of the select variables, and the names that are listed again. -/
structure Selection where
  table : VariableTable
  duplicates : List String

def select (s : Selection) : List String → Except QueryError Selection
  | [] => .ok s
  | name :: names =>
    if (s.table.find? name).isSome then
      select { s with duplicates := s.duplicates ++ [name] } names
    else
      match s.table.declare name true with
      | (.error e, _) => .error e
      | (.ok _, table) => select { s with table := table } names

def assignTerm (table : VariableTable) (t : PatternTerm) :
    Pass VariableTable QueryError PatternTerm :=
  match t with
  | .named name =>
    match table.getOrDeclare name with
    | (.ok id, table) => ⟨.slot id, table, none⟩
    | (.error e, table) => ⟨t, table, some e⟩
  | _ => ⟨t, table, none⟩

def assignPatterns (table : VariableTable) (patterns : List TriplePattern) :
    Pass VariableTable QueryError (List TriplePattern) :=
  Pass.list (fun table p => p.visit assignTerm table) table patterns

def assignConstraints (table : VariableTable) (constraints : List Expression) :
    Pass VariableTable QueryError (List Expression) :=
  Pass.list
    (fun table e =>
      e.visitLeaves (fun table t => (assignTerm table t).mapResult Expression.leaf) table)
    table constraints

end Assignment

/-- Patterns and constraints with slots in place of names. -/
structure Assignment where
  patterns : List TriplePattern
  constraints : List Expression
  table : VariableTable
  /-- Select occurrences whose name came earlier. -/
  duplicates : List String

/-- What an assignment has come to when it fails: the patterns and constraints as
they are then. -/
structure Assignment.Stopped where
  error : QueryError
  patterns : List TriplePattern
  constraints : List Expression

/-- Assigns every variable a slot.  With `selectAll` the variables of the patterns
are the select variables; without it there must be selects or patterns. -/
def Assignment.assign (selects : List String) (selectAll : Bool)
    (patterns : List TriplePattern) (constraints : List Expression) :
    Except Assignment.Stopped Assignment :=
  if !selectAll && selects.isEmpty && patterns.isEmpty then
    .error ⟨.noVariables, patterns, constraints⟩
  else
    match select ⟨.empty, []⟩ (if selectAll then patternNames patterns else selects) with
    | .error e => .error ⟨e, patterns, constraints⟩
    | .ok selection =>
      let p := assignPatterns selection.table patterns
      match p.failure with
      | some e => .error ⟨e, p.result, constraints⟩
      | none =>
        let c := assignConstraints p.state constraints
        match c.failure with
        | some e => .error ⟨e, p.result, c.result⟩
        | none =>
          .ok ⟨p.result, c.result, c.state, if selectAll then [] else selection.duplicates⟩

end GraphPattern
