/-
The world around a join.

A backend answers the requests of a join: whether it should stop, the candidates
for a selector, what becomes of a cursor.  Its answers may depend on a state that
every request changes, so that faults and a flag raised at any moment are covered.
`Backend.logging` is a backend that writes down what it is asked.
-/
import GraphPattern.Store.Source

namespace GraphPattern

/-- The answers to the requests of a join, over a state `ω`.  Cursors are numbered in
the order in which they are asked for. -/
structure Backend (ω : Type) where
  /-- Whether the join should stop. -/
  stops : ω → Bool × ω
  /-- The candidates for a selector. -/
  candidates : TripleSelector → ω → Except MatchError (List Triple) × ω
  /-- A cursor is read. -/
  reads : Nat → ω → ω
  /-- A fault, if a cursor cannot be moved. -/
  advanceFault : Nat → ω → Option MatchError × ω
  /-- A cursor is given back. -/
  closes : Nat → Cursor → ω → ω

/-! ## A store as it is -/

/-- The calls at which a source fails, counted from zero, and the one during which
the flag is raised. -/
structure FaultPlan where
  failOnOpen : Option Nat
  failOnAdvance : Option Nat
  abortOnOpen : Option Nat
deriving DecidableEq, Repr

def FaultPlan.none : FaultPlan := ⟨.none, .none, .none⟩

/-- The flag that stops a join, and the number of requests so far. -/
structure BackendState where
  aborted : Bool
  opens : Nat
  advances : Nat
deriving DecidableEq, Repr

namespace Backend

/-- A source that fails as planned, and a flag that others may raise. -/
def ofSource (source : TripleSource) (faults : FaultPlan) : Backend BackendState where
  stops s := (s.aborted, s)
  candidates p s :=
    let next : BackendState :=
      { s with
        opens := s.opens + 1
        aborted := s.aborted || faults.abortOnOpen == some s.opens }
    if faults.failOnOpen = some s.opens then (.error (.store p.text "injected"), next)
    else (source p, next)
  reads _ s := s
  advanceFault _ s :=
    let next := { s with advances := s.advances + 1 }
    (if faults.failOnAdvance = some s.advances then some .closed else none, next)
  closes _ _ s := s

end Backend

/-! ## A source that writes down what it is asked -/

/-- What a source is asked to do. -/
inductive JoinEvent where
  | opened (cursor : Nat) (selector : TripleSelector)
  | refused (cursor : Nat) (selector : TripleSelector)
  | read (cursor : Nat)
  | advanced (cursor : Nat)
  | closed (cursor : Nat)
deriving DecidableEq

/-- A state with a log: how many cursors were asked for, and what was done to them, the
latest first. -/
structure Logged (ω : Type) where
  world : ω
  opens : Nat
  events : List JoinEvent

def Logged.start {ω : Type} (w : ω) : Logged ω := ⟨w, 0, []⟩

/-- The same backend, which writes down what it is asked.  A cursor counts as closed
when it is given back closed. -/
def Backend.logging {ω : Type} (b : Backend ω) : Backend (Logged ω) where
  stops s := (b.stops s.world).map id fun w => { s with world := w }
  candidates p s :=
    let (answer, w) := b.candidates p s.world
    let event := match answer with
      | .ok _ => JoinEvent.opened s.opens p
      | .error _ => JoinEvent.refused s.opens p
    (answer, ⟨w, s.opens + 1, event :: s.events⟩)
  reads k s := { s with world := b.reads k s.world, events := .read k :: s.events }
  advanceFault k s :=
    (b.advanceFault k s.world).map id fun w =>
      { s with world := w, events := .advanced k :: s.events }
  closes k c s :=
    { s with
      world := b.closes k c s.world
      events := if c.closed then .closed k :: s.events else s.events }

end GraphPattern
