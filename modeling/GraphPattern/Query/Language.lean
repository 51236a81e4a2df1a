/-
Query languages: the hooks that they plug into the life of a query.
-/
import GraphPattern.Query.Operation

namespace GraphPattern

/-- The hooks of a language.  Each is handed the query and gives it back, with an
error if it fails. -/
structure Language where
  /-- Fills a new query in; it is told the name of its engine. -/
  init : String → QueryState → Option QueryError × QueryState
  /-- Compiles a query. -/
  prepare : QueryState → Option QueryError × QueryState
  /-- Runs before a join is started. -/
  execute : QueryState → Option QueryError × QueryState
  /-- Runs when a query is given up. -/
  terminate : QueryState → QueryState

namespace Language

/-- The language of queries that are built pattern by pattern. -/
def patterns : Language where
  init _ s := (none, s)
  prepare s := s.compile
  execute s := (none, s)
  terminate s := s

/-- What a hook is to do: steps, whatever comes of each, and then an error. -/
structure HookScript where
  steps : List QueryStep
  error : Option QueryError

/-- Runs the script of a hook; `prepare` is the prepare hook that its steps may
call. -/
def HookScript.run (h : HookScript) (prepare : QueryState → Option QueryError × QueryState)
    (s : QueryState) : Option QueryError × QueryState :=
  (h.error, s.takeAll prepare h.steps)

/-- A language whose hooks follow scripts. -/
structure Script where
  init : HookScript
  prepare : HookScript
  execute : HookScript
  /-- Whether the prepare hook leaves out compiling. -/
  skipCompile : Bool

/-- The prepare hook of a script: its steps, and then it compiles.  A prepare step
inside of it calls a hook that has no steps. -/
def Script.prepareHook (l : Script) (s : QueryState) : Option QueryError × QueryState :=
  match l.prepare.run (fun s => (none, s.noteCall .prepare)) (s.noteCall .prepare) with
  | (some e, s) => (some e, s)
  | (none, s) => if l.skipCompile then (none, s) else s.compile

/-- The language that follows a script.  Its hooks write down their calls. -/
def ofScript (l : Script) : Language where
  init engine s := l.init.run l.prepareHook (s.noteCall (.init engine))
  prepare := l.prepareHook
  execute s := l.execute.run l.prepareHook (s.noteCall .execute)
  terminate s := s.noteCall (.terminate s.failed)

end Language

end GraphPattern
