/-
The state of a query.

A front-end fills in selects, patterns, constraints and prefixes.  Compiling
resolves the names, gives every variable a slot, orders the patterns and joins the
constraints into one.  It runs once; a query that has failed stays failed.
-/
import GraphPattern.Config.Basic
import GraphPattern.Query.Assignment
import GraphPattern.Query.Resolver

namespace GraphPattern

/-- A call of a hook, as the hook writes it down. -/
inductive HookCall where
  | init (engine : String)
  | prepare
  | execute
  | terminate (failed : Bool)
deriving DecidableEq, Repr

/-- A diagnostic that was handed to a handler, which is known by its label. -/
structure Delivered where
  handler : String
  diagnostic : Diagnostic
deriving DecidableEq, Repr

/-- What a query consists of: the parts from the front-end, what compiling made of
them, and what was reported.  `hookCalls` is the memory of the hooks: nothing but a hook
reads it or writes to it. -/
structure QueryState where
  config : Config
  text : Option String
  selects : List String
  selectAll : Bool
  sources : List String
  patterns : List TriplePattern
  constraints : List Expression
  prefixes : List PrefixDeclaration
  base : Option String
  failed : Bool
  prepared : Bool
  compiled : Bool
  initialized : Bool
  table : VariableTable
  order : List Nat
  constraint : Option Expression
  locator : Locator
  diagnostics : List Diagnostic
  handlers : OrderedMap Severity String
  delivered : List Delivered
  aborted : Bool
  hookCalls : List HookCall

namespace QueryState

def new (config : Config) (text : Option String) : QueryState :=
  { config := config
    text := text
    selects := []
    selectAll := false
    sources := []
    patterns := []
    constraints := []
    prefixes := []
    base := none
    failed := false
    prepared := false
    compiled := false
    initialized := false
    table := .empty
    order := []
    constraint := none
    locator := .unknown
    diagnostics := []
    handlers := .empty
    delivered := []
    aborted := false
    hookCalls := [] }

/-- The base of the query, or that of its engine. -/
def effectiveBase (s : QueryState) : Option String := s.base.or s.config.baseUri

/-- Hands a diagnostic to the handler for its severity, if there is one. -/
def deliver (s : QueryState) (d : Diagnostic) : QueryState :=
  match s.handlers.get? d.severity with
  | some label => { s with delivered := s.delivered ++ [⟨label, d⟩] }
  | none => s

/-- Records a diagnostic; a grave one fails the query. -/
def report (s : QueryState) (severity : Severity) (message : String) : QueryState :=
  let d : Diagnostic := ⟨severity, message, s.locator⟩
  let s := s.deliver d
  { s with
    failed := s.failed || severity.invalidates
    diagnostics := s.diagnostics ++ [d] }

def reportError (s : QueryState) (e : QueryError) : QueryState := s.report e.severity e.message

def resolver (s : QueryState) : Resolver :=
  .ofDeclarations s.prefixes s.config.builtinPrefixes s.effectiveBase

/-- Resolves the names, in the patterns first. -/
def resolveNames (s : QueryState) : Option QueryError × QueryState :=
  let p := s.resolver.resolvePatterns s.patterns
  let s := { s with patterns := p.result }
  match p.failure with
  | some e => (some e, s)
  | none =>
    let c := s.resolver.resolveExpressions s.constraints
    (c.failure, { s with constraints := c.result })

def duplicateMessage (name : String) : String :=
  "Variable ?" ++ name ++ " selected more than once"

/-- All constraints in one, in the order they were added. -/
def conjunction : List Expression → Option Expression
  | [] => none
  | e :: es => some (es.foldl Expression.both e)

/-- Gives the variables their slots and makes the plan. -/
def assignSlots (s : QueryState) : Option QueryError × QueryState :=
  match Assignment.assign s.selects s.selectAll s.patterns s.constraints with
  | .error stopped =>
    (some stopped.error,
      { s with patterns := stopped.patterns, constraints := stopped.constraints })
  | .ok a =>
    let s := { s with patterns := a.patterns, constraints := a.constraints, table := a.table }
    let s := a.duplicates.foldl (fun s name => s.report .warning (duplicateMessage name)) s
    (none,
      { s with
        order := s.config.ordering.plan s.patterns
        constraint := conjunction s.constraints })

/-- The stages of compiling; the first error stops them. -/
def compileStages (s : QueryState) : Option QueryError × QueryState :=
  match s.resolveNames with
  | (some e, s) => (some e, s)
  | (none, s) => s.assignSlots

/-- Compiles a query that is neither failed nor compiled.  An error is recorded. -/
def compile (s : QueryState) : Option QueryError × QueryState :=
  if s.failed then (some .notReady, s)
  else if s.compiled then (none, s)
  else
    match s.compileStages with
    | (some e, s) => (some e, s.reportError e)
    | (none, s) => (none, { s with compiled := true })

def noteCall (s : QueryState) (call : HookCall) : QueryState :=
  { s with hookCalls := s.hookCalls ++ [call] }

/-- Prepares a query through the hook of its language.  An error is recorded unless
the query has failed in the hook. -/
def prepareWith (hook : QueryState → Option QueryError × QueryState) (s : QueryState) :
    Option QueryError × QueryState :=
  if s.failed then (some .notReady, s)
  else if s.prepared then (none, s)
  else
    match hook s with
    | (none, s) => (none, { s with prepared := true })
    | (some e, s) => (some e, if s.failed then s else s.reportError e)

/-- The patterns in the order in which they are joined. -/
def orderedPatterns (s : QueryState) : List TriplePattern :=
  s.order.filterMap fun i => s.patterns[i]?

end QueryState

end GraphPattern
