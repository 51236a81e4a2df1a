/-
The backtracking join, step by step.

The patterns of a plan are joined one inside the other.  Each open level reads the
candidates of its pattern through a cursor; its bindings are in the variable
table.  Going down, the next pattern of the plan is opened; at the end of the plan
the constraint is checked; coming back, the innermost level moves to its next
candidate or is closed.  Every step begins with a look at whether to stop.

There is one level to a pattern.  A plan that names a pattern twice comes to the same
level at both places: going down it finds the level open and looks at its candidate
again, and a level closed at the inner place is opened anew when the search comes back
to the outer one.  Such a join may go round for ever; it is given up after many rounds.
-/
import GraphPattern.Constraint.Evaluator
import GraphPattern.Join.Backend
import GraphPattern.Join.Solution
import GraphPattern.Join.View

namespace GraphPattern

/-- What a join is to do: patterns, the order in which they are joined, and a
constraint on the outcome. -/
structure JoinPlan where
  patterns : List TriplePattern
  order : List Nat
  constraint : Option Expression

/-- An open level: the number of its pattern, its cursor, and the variables that
its candidates bind.  A level whose pattern nothing can match has a cursor that
does not come from the source and has no number. -/
structure Level where
  pattern : Nat
  number : Option Nat
  cursor : Cursor
  binders : List Binder

/-- Where a join is going: to the next pattern of the plan, back to the one before
it, or nowhere. -/
inductive Phase where
  | descending
  | retreating
  | finished
deriving DecidableEq, Repr

/-- A join under way.  `levels` are the open ones, the latest looked at first; `done`
is the part of the plan behind the search, its last pattern first, and `todo` the part
before it. -/
structure JoinState (ω : Type) where
  phase : Phase
  levels : List Level
  done : List Nat
  todo : List Nat
  table : VariableTable
  cache : RegexCache
  /-- How many cursors have been asked for. -/
  opens : Nat
  /-- How many more times a level may be closed that a place behind still needs. -/
  rounds : Nat
  world : ω

/-- What comes of one step. -/
inductive StepResult where
  | running
  | solution (s : Solution)
  | exhausted
  | failed (e : QueryError)

namespace JoinState

variable {ω : Type}

/-- The number of rounds after which a join is given up. -/
def roundLimit : Nat := 1000000000

/-- A join before its first step; all variables start without a value. -/
def start (plan : JoinPlan) (table : VariableTable) (world : ω) : JoinState ω :=
  { phase := .descending
    levels := []
    done := []
    todo := plan.order
    table := table.reset
    cache := .empty
    opens := 0
    rounds := roundLimit
    world := world }

def level? (s : JoinState ω) (index : Nat) : Option Level :=
  s.levels.find? fun l => l.pattern = index

/-- The open levels of other patterns. -/
def others (s : JoinState ω) (index : Nat) : List Level :=
  s.levels.filter fun l => l.pattern ≠ index

/-- Calls the source about a cursor; one that is not from the source has no number. -/
def tell (s : JoinState ω) (call : Nat → ω → ω) (number : Option Nat) : JoinState ω :=
  match number with
  | none => s
  | some k => { s with world := call k s.world }

section

variable (s : JoinState ω) (call : Nat → ω → ω) (number : Option Nat)

@[simp] theorem tell_phase : (s.tell call number).phase = s.phase := by cases number <;> rfl

@[simp] theorem tell_levels : (s.tell call number).levels = s.levels := by cases number <;> rfl

@[simp] theorem tell_done : (s.tell call number).done = s.done := by cases number <;> rfl

@[simp] theorem tell_todo : (s.tell call number).todo = s.todo := by cases number <;> rfl

@[simp] theorem tell_table : (s.tell call number).table = s.table := by cases number <;> rfl

@[simp] theorem tell_cache : (s.tell call number).cache = s.cache := by cases number <;> rfl

@[simp] theorem tell_opens : (s.tell call number).opens = s.opens := by cases number <;> rfl

@[simp] theorem tell_rounds : (s.tell call number).rounds = s.rounds := by cases number <;> rfl

end

/-- Takes away what a level has bound. -/
def release (s : JoinState ω) (l : Level) : JoinState ω :=
  { s with table := s.table.release l.binders }

/-- Closes a level that is no longer among the open ones: its cursor is closed and given
back. -/
def closeLevel (b : Backend ω) (s : JoinState ω) (l : Level) : JoinState ω :=
  (s.release l).tell (fun k => b.closes k l.cursor.close) l.number

section

variable (b : Backend ω) (s : JoinState ω) (l : Level)

@[simp] theorem closeLevel_phase : (s.closeLevel b l).phase = s.phase := tell_phase ..

@[simp] theorem closeLevel_levels : (s.closeLevel b l).levels = s.levels := tell_levels ..

@[simp] theorem closeLevel_done : (s.closeLevel b l).done = s.done := tell_done ..

@[simp] theorem closeLevel_todo : (s.closeLevel b l).todo = s.todo := tell_todo ..

@[simp] theorem closeLevel_table :
    (s.closeLevel b l).table = s.table.release l.binders := tell_table ..

@[simp] theorem closeLevel_cache : (s.closeLevel b l).cache = s.cache := tell_cache ..

@[simp] theorem closeLevel_opens : (s.closeLevel b l).opens = s.opens := tell_opens ..

@[simp] theorem closeLevel_rounds : (s.closeLevel b l).rounds = s.rounds := tell_rounds ..

end

/-- Goes back to the pattern before; without one the join is exhausted. -/
def retreat (s : JoinState ω) : StepResult × JoinState ω :=
  if s.done.isEmpty then (.exhausted, s) else (.running, { s with phase := .retreating })

/-- Counts a round, if a place behind still needs the level of a pattern. -/
def countRound (s : JoinState ω) (index : Nat) (behind : List Nat) : Option (JoinState ω) :=
  if behind.contains index then
    match s.rounds with
    | 0 => none
    | n + 1 => some { s with rounds := n }
  else some s

/-- Closes a level whose candidates are all read and goes back. -/
def leave (b : Backend ω) (s : JoinState ω) (l : Level) (behind todo : List Nat) :
    StepResult × JoinState ω :=
  let s := { s with levels := s.others l.pattern, done := behind, todo := l.pattern :: todo }
  match (s.closeLevel b l).countRound l.pattern behind with
  | none => (.exhausted, s)
  | some s => s.retreat

/-- Looks at the candidate under the cursor of `l`, the level of the pattern between
`behind` and `todo`: binds its variables and goes down, passes over it, or closes the
level. -/
def examine (b : Backend ω) (s : JoinState ω) (l : Level) (behind todo : List Nat) :
    StepResult × JoinState ω :=
  let s := s.tell b.reads l.number
  match l.cursor.current with
  | some t =>
    let (agrees, table) := s.table.unify t l.binders
    let s := { s with
      table := table
      levels := l :: s.others l.pattern
      done := l.pattern :: behind
      todo := todo }
    if agrees then (.running, { s with phase := .descending })
    else (.running, { s.release l with phase := .retreating })
  | none => s.leave b l behind todo

def openCursor (b : Backend ω) (s : JoinState ω) (p : TripleSelector) :
    Except MatchError Cursor × JoinState ω :=
  let (answer, world) := b.candidates p s.world
  (answer.map .ofList, { s with world := world, opens := s.opens + 1 })

/-- Opens the level of a pattern and looks at its first candidate. -/
def openLevel (plan : JoinPlan) (b : Backend ω) (s : JoinState ω) (index : Nat)
    (behind todo : List Nat) : StepResult × JoinState ω :=
  match plan.patterns[index]? with
  | none => (.failed (.missingPattern index), s)
  | some p =>
    match p.viewUnder s.table with
    | .error e => (.failed e, s)
    | .ok view =>
      match view.selector? with
      | none => s.examine b ⟨index, none, .ofList [], view.binders⟩ behind todo
      | some selector =>
        match openCursor b s selector with
        | (.error e, s) => (.failed (.matchFailure e), s)
        | (.ok cursor, s') =>
          s'.examine b ⟨index, some s.opens, cursor, view.binders⟩ behind todo

/-- Comes down to a pattern: its level is opened, or looked at again. -/
def enterLevel (plan : JoinPlan) (b : Backend ω) (s : JoinState ω) (index : Nat)
    (todo : List Nat) : StepResult × JoinState ω :=
  match s.level? index with
  | some l => s.examine b l s.done todo
  | none => openLevel plan b s index s.done todo

/-- Moves the cursor of a level; one that is not from the source has no faults. -/
def advanceCursor (b : Backend ω) (s : JoinState ω) (l : Level) :
    Except MatchError Cursor × JoinState ω :=
  match l.number with
  | none => (l.cursor.advance, s)
  | some k =>
    let (fault, world) := b.advanceFault k s.world
    let s := { s with world := world }
    match fault with
    | some e => (.error e, s)
    | none => (l.cursor.advance, s)

/-- Moves a level to its next candidate. -/
def advanceLevel (b : Backend ω) (s : JoinState ω) (l : Level) (behind : List Nat) :
    StepResult × JoinState ω :=
  match advanceCursor b (s.release l) l with
  | (.error e, s) => (.failed (.matchFailure e), s)
  | (.ok cursor, s) => s.examine b { l with cursor := cursor } behind s.todo

/-- Comes back to a pattern: its level moves on, or is opened anew. -/
def resumeLevel (plan : JoinPlan) (b : Backend ω) (s : JoinState ω) (index : Nat)
    (behind : List Nat) : StepResult × JoinState ω :=
  match s.level? index with
  | some l => advanceLevel b s l behind
  | none => openLevel plan b s index behind s.todo

/-- Whether the constraint holds of the values at the end of the plan. -/
def judge (plan : JoinPlan) (s : JoinState ω) : Bool × JoinState ω :=
  match plan.constraint with
  | none => (true, s)
  | some e =>
    let (holds, cache) := (e.holds s.table).run s.cache
    (holds, { s with cache := cache })

/-- Gives the row of the select variables, and goes back; without a pattern there is no
further row. -/
def emit (s : JoinState ω) : StepResult × JoinState ω :=
  (.solution (.ofTable s.table),
    { s with phase := if s.done.isEmpty then .finished else .retreating })

/-- The end of the plan: a row if the constraint holds, then back. -/
def complete (plan : JoinPlan) (s : JoinState ω) : StepResult × JoinState ω :=
  let (accepted, s) := s.judge plan
  if accepted then s.emit else s.retreat

def step (plan : JoinPlan) (b : Backend ω) (s : JoinState ω) : StepResult × JoinState ω :=
  if s.phase = .finished then (.exhausted, s)
  else
    let (stops, world) := b.stops s.world
    let s := { s with world := world }
    if stops then (.failed .aborted, s)
    else
      match s.phase, s.done, s.todo with
      | .retreating, index :: behind, _ => resumeLevel plan b s index behind
      | .descending, _, index :: todo => enterLevel plan b s index todo
      | .descending, _, [] => complete plan s
      | _, _, _ => (.exhausted, s)

/-- Open levels in the order of their patterns' numbers. -/
def inPatternOrder (levels : List Level) : List Level :=
  levels.mergeSort fun a b => a.pattern ≤ b.pattern

/-- Ends a join: closes the open levels in the order of their patterns and takes
all values away. -/
def finish (b : Backend ω) (s : JoinState ω) : JoinState ω :=
  let s := (inPatternOrder s.levels).foldl (closeLevel b) { s with levels := [] }
  { s with phase := .finished, table := s.table.reset }

end JoinState

end GraphPattern
