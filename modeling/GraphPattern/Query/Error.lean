/-
Errors of queries, and the diagnostics that record them.
-/
import GraphPattern.Store.Source

namespace GraphPattern

/-- Why a query could not be built, prepared or run. -/
inductive QueryError where
  | undeclaredPrefix (name qname : String)
  | invalidIri (detail : String)
  | duplicateVariable (detail : String)
  | noVariables
  | notReady
  | matchFailure (error : MatchError)
  | aborted
  | duplicateName (name : String)
  | notFound (key : String)
  /-- A join order names a pattern that there is not. -/
  | missingPattern (index : Nat)
deriving DecidableEq, Repr

/-- How grave a diagnostic is. -/
inductive Severity where
  | warning
  | error
  | fatal
deriving DecidableEq, Repr

namespace Severity

/-- Whether a diagnostic of this severity fails its query. -/
def invalidates : Severity → Bool
  | warning => false
  | error | fatal => true

def text : Severity → String
  | warning => "warning"
  | error => "error"
  | fatal => "fatal error"

end Severity

namespace QueryError

def message : QueryError → String
  | undeclaredPrefix name qname => "Undeclared prefix '" ++ name ++ "' in '" ++ qname ++ "'"
  | invalidIri detail => "Invalid IRI: " ++ detail
  | duplicateVariable detail => "Variable declared twice: " ++ detail
  | noVariables => "Query defines no variables"
  | notReady => "Query is not ready for execution"
  | matchFailure error => error.message
  | aborted => "Query execution aborted"
  | duplicateName name => "Query engine already registered: " ++ name
  | notFound key => "Query engine not found: " ++ key
  | missingPattern index => "No pattern " ++ toString index

def severity : QueryError → Severity
  | duplicateVariable _ | matchFailure _ | missingPattern _ => .fatal
  | aborted => .warning
  | _ => .error

end QueryError

/-- Where a query comes from. -/
structure Locator where
  uri : Option String
  line : Option Nat
  column : Option Nat
deriving DecidableEq, Repr

namespace Locator

/-- No place in particular. -/
def unknown : Locator := ⟨none, none, none⟩

def colonText (n : Nat) : String := ":" ++ toString n

/-- The document, and as far as they are known the line and the column in it. -/
def text (l : Locator) : String :=
  l.uri.getD "<query>" ++
    match l.line with
    | none => ""
    | some line => colonText line ++ (l.column.map colonText).getD ""

end Locator

/-- One reported problem. -/
structure Diagnostic where
  severity : Severity
  message : String
  locator : Locator
deriving DecidableEq, Repr

def Diagnostic.text (d : Diagnostic) : String :=
  d.locator.text ++ ": " ++ d.severity.text ++ " - " ++ d.message

end GraphPattern
