/-
The life of a query, from its engine's first hook to its last.
-/
import GraphPattern.Registry
import GraphPattern.Join.Run

namespace GraphPattern

/-- A query and the engine that it was created by. -/
structure Query where
  engine : Engine
  state : QueryState

/-- A join over the patterns of a query, before its first step. -/
structure Started where
  plan : JoinPlan
  join : JoinState BackendState

namespace Query

/-- Gives a query up.  The last hook runs if the first one has not failed. -/
def close (q : Query) : QueryState :=
  if q.state.initialized then q.engine.language.terminate q.state else q.state

/-- Creates a query and runs the first hook.  If that fails the query is given up at once. -/
def create (engine : Engine) (config : Config) (text : Option String) :
    Except (QueryError × QueryState) Query :=
  match engine.language.init engine.name (.new config text) with
  | (none, s) => .ok ⟨engine, { s with initialized := true }⟩
  | (some e, s) => .error (e, close ⟨engine, s⟩)

def mapState (q : Query) (f : QueryState → QueryState) : Query := { q with state := f q.state }

/-- Takes a step. -/
def take (q : Query) (step : QueryStep) : Option QueryError × Query :=
  let (e, s) := q.state.take q.engine.language.prepare step
  (e, { q with state := s })

/-- What a join over the query's patterns starts from. -/
def started (s : QueryState) : Started :=
  let plan : JoinPlan := ⟨s.patterns, s.order, s.constraint⟩
  ⟨plan, .start plan s.table ⟨s.aborted, 0, 0⟩⟩

/-- Starts a join.  The query must be prepared and not failed; an error of the hook
is recorded. -/
def execute (q : Query) : Except QueryError Started × Query :=
  if q.state.failed || !q.state.prepared then (.error .notReady, q)
  else
    match q.engine.language.execute q.state with
    | (some e, s) => (.error e, { q with state := s.reportError e })
    | (none, s) => (.ok (started s), { q with state := s })

/-- Gives a join up and takes back what it has left: the table, without values, and the
flag that may have been raised meanwhile. -/
def conclude (q : Query) (b : Backend BackendState) (j : JoinState BackendState) : Query :=
  let j := j.finish b
  q.mapState fun s => { s with table := j.table, aborted := j.world.aborted }

end Query

/-- Creates a query of the engine that a key names. -/
def Registry.createQuery (r : Registry) (key : String) (config : Config) (text : Option String) :
    Except (QueryError × Option QueryState) Query :=
  match r.lookup key with
  | .error e => .error (e, none)
  | .ok engine =>
    match Query.create engine config text with
    | .ok q => .ok q
    | .error (e, s) => .error (e, some s)

end GraphPattern
