/-
Patterns under the values that variables have at the moment.

A constant or a variable with a value fixes its position; a variable without one
leaves it open and is bound there by each candidate.
-/
import GraphPattern.Query.VariableTable

namespace GraphPattern

/-- What a position of a pattern asks of a candidate. -/
inductive Slot where
  | fixed (t : Term)
  | opening (id : VarId)
deriving DecidableEq

namespace Slot

/-- The term that a position is fixed to. -/
def term? : Slot → Option Term
  | fixed t => some t
  | opening _ => none

/-- The variable that a position binds. -/
def opened? : Slot → Option VarId
  | fixed _ => none
  | opening id => some id

end Slot

/-- What a position asks under a table.  A name that is not resolved asks nothing
that could be answered. -/
def PatternTerm.slotUnder (table : VariableTable) (t : PatternTerm) : Except QueryError Slot :=
  match t with
  | .term t => .ok (.fixed t)
  | .slot id =>
    match table.value id with
    | some value => .ok (.fixed value)
    | none => .ok (.opening id)
  | _ => .error .notReady

/-- A pattern under a table. -/
structure PatternView where
  subject : Slot
  predicate : Slot
  object : Slot
deriving DecidableEq

/-- The view of a pattern under a table. -/
def TriplePattern.viewUnder (table : VariableTable) (p : TriplePattern) :
    Except QueryError PatternView := do
  let subject ← p.subject.slotUnder table
  let predicate ← p.predicate.slotUnder table
  let object ← p.object.slotUnder table
  return ⟨subject, predicate, object⟩

/-- A variable and the position that binds it. -/
structure Binder where
  position : Position
  id : VarId
deriving DecidableEq

namespace PatternView

/-- What each position asks. -/
def slots (v : PatternView) : List (Position × Slot) :=
  [(.subject, v.subject), (.predicate, v.predicate), (.object, v.object)]

/-- The variables that candidates bind, in subject, predicate, object order. -/
def binders (v : PatternView) : List Binder :=
  v.slots.filterMap fun entry => entry.2.opened?.map fun id => ⟨entry.1, id⟩

/-- Fixes a position by a part of terms: `none` if the term cannot stand there. -/
def fix {α : Type} (place : Term → Option α) (s : Slot) : Option (Option α) :=
  match s.term? with
  | none => some none
  | some t => (place t).map some

/-- The selector for candidates; there is none if a value cannot stand in its
position, so that nothing can match. -/
def selector? (v : PatternView) : Option TripleSelector := do
  let subject ← fix Term.subject? v.subject
  let predicate ← fix Term.predicate? v.predicate
  return ⟨subject, predicate, v.object.term?⟩

end PatternView

namespace VariableTable

/-- Binds variables by a candidate, up to one that has another value already: it
occurs twice in the pattern.  Tells whether all agree. -/
def unify (t : Triple) : List Binder → VariableTable → Bool × VariableTable
  | [], table => (true, table)
  | b :: bs, table =>
    match table.value b.id with
    | some value => if value = t.term b.position then unify t bs table else (false, table)
    | none => unify t bs (table.bind b.id (t.term b.position))

/-- Takes the values of variables away. -/
def release (binders : List Binder) (table : VariableTable) : VariableTable :=
  binders.foldl (fun table b => table.unbind b.id) table

end VariableTable

end GraphPattern
