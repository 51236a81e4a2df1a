/-
What a caller, or a hook, may do to a query.
-/
import GraphPattern.Query.State

namespace GraphPattern

/-- Changes that never fail. -/
inductive QueryEdit where
  | addSelect (name : String)
  | setSelectAll (all : Bool)
  | addSource (graph : String)
  | addPattern (p : TriplePattern)
  | addConstraint (e : Expression)
  | addPrefix (d : PrefixDeclaration)
  | setBase (base : String)
  | setText (text : String)
  | setLocator (l : Locator)
  | setHandler (severity : Severity) (label : String)
  | report (severity : Severity) (message : String)
  | reportError (e : QueryError)
  | abort
  | resetAbort

namespace QueryState

def edit (s : QueryState) : QueryEdit → QueryState
  | .addSelect name => { s with selects := s.selects ++ [name] }
  | .setSelectAll all => { s with selectAll := all }
  | .addSource graph => { s with sources := s.sources ++ [graph] }
  | .addPattern p => { s with patterns := s.patterns ++ [p] }
  | .addConstraint e => { s with constraints := s.constraints ++ [e] }
  | .addPrefix d => { s with prefixes := s.prefixes ++ [d] }
  | .setBase base => { s with base := some base }
  | .setText text => { s with text := some text }
  | .setLocator l => { s with locator := l }
  | .setHandler severity label => { s with handlers := s.handlers.insert severity label }
  | .report severity message => s.report severity message
  | .reportError e => s.reportError e
  | .abort => { s with aborted := true }
  | .resetAbort => { s with aborted := false }

end QueryState

/-- A change, or one of the two ways to compile. -/
inductive QueryStep where
  | edit (e : QueryEdit)
  | compile
  | prepare

/-- Takes a step; `hook` is the prepare hook of the query's language. -/
def QueryState.take (hook : QueryState → Option QueryError × QueryState) (s : QueryState) :
    QueryStep → Option QueryError × QueryState
  | .edit e => (none, s.edit e)
  | .compile => s.compile
  | .prepare => s.prepareWith hook

/-- Takes steps in turn, whatever comes of each. -/
def QueryState.takeAll (hook : QueryState → Option QueryError × QueryState)
    (steps : List QueryStep) (s : QueryState) : QueryState :=
  steps.foldl (fun s step => (s.take hook step).2) s

end GraphPattern
