/-
Prefixes for namespaces, and references under a base.

Declarations are kept in the order they were made; the last one of a prefix
counts.
-/
import GraphPattern.Iri.Resolve
import GraphPattern.Rdf.Term

namespace GraphPattern

/-- Why a name has no IRI. -/
inductive PrefixError where
  | unknownPrefix (name : String)
  | invalidIri (detail : String)
deriving DecidableEq, Repr

def PrefixError.message : PrefixError → String
  | .unknownPrefix name => "Unknown prefix: " ++ name
  | .invalidIri detail => "Invalid IRI: " ++ detail

/-- A prefix and the namespace that it stands for. -/
structure PrefixDeclaration where
  name : String
  iri : String
deriving DecidableEq, Repr

/-- Declarations, oldest first. -/
structure Namespaces where
  declarations : List PrefixDeclaration
deriving DecidableEq, Repr

/-- Splits "prefix:local" at its first colon. -/
def splitQname (qname : String) : Option (String × String) :=
  match qname.toList.span (· != ':') with
  | (_, []) => none
  | (name, _ :: rest) => some (String.ofList name, String.ofList rest)

namespace Namespaces

def empty : Namespaces := ⟨[]⟩

/-- Declares a prefix behind all earlier declarations. -/
def declare (ns : Namespaces) (name iri : String) : Namespaces :=
  ⟨ns.declarations ++ [⟨name, iri⟩]⟩

/-- The declarations that every query may use. -/
def common : Namespaces :=
  ⟨[⟨"rdf", "http://www.w3.org/1999/02/22-rdf-syntax-ns#"⟩,
    ⟨"rdfs", "http://www.w3.org/2000/01/rdf-schema#"⟩,
    ⟨"xsd", "http://www.w3.org/2001/XMLSchema#"⟩,
    ⟨"owl", "http://www.w3.org/2002/07/owl#"⟩]⟩

def find? (ns : Namespaces) (name : String) : Option String :=
  (ns.declarations.reverse.find? fun d => d.name = name).map (·.iri)

def get (ns : Namespaces) (name : String) : Except PrefixError String :=
  match ns.find? name with
  | some iri => .ok iri
  | none => .error (.unknownPrefix name)

def expand (ns : Namespaces) (qname : String) : Except PrefixError String :=
  match splitQname qname with
  | none => .error (.invalidIri qname)
  | some (name, localName) =>
    match ns.get name with
    | .ok iri => .ok (iri ++ localName)
    | .error e => .error e

/-- Whether a declaration can shorten an IRI: its namespace is a non-empty part at
the front, and no later declaration took its prefix for another. -/
def shortens (ns : Namespaces) (iri : String) (d : PrefixDeclaration) : Bool :=
  !d.iri.toList.isEmpty && d.iri.toList.isPrefixOf iri.toList && ns.find? d.name = some d.iri

/-- The prefixed name for an IRI, by the newest declaration that has one. -/
def compact (ns : Namespaces) (iri : String) : Option String :=
  (ns.declarations.reverse.find? (ns.shortens iri)).map fun d =>
    d.name ++ ":" ++ String.ofList (iri.toList.drop d.iri.toList.length)

end Namespaces

/-- The absolute IRI that a reference stands for.  An absolute reference is kept as
it is; any other needs a base. -/
def Iri.resolve (base : Option String) (reference : String) : Except PrefixError String :=
  match Components.ofAbsolute reference.toList with
  | .ok _ => .ok reference
  | .error _ =>
    match base with
    | none => .error (.invalidIri reference)
    | some base =>
      match Components.ofAbsolute base.toList with
      | .error fault => .error (.invalidIri (base ++ ": " ++ fault.message))
      | .ok components =>
        match components.resolve reference.toList with
        | .ok iri => .ok (String.ofList iri.text)
        | .error fault => .error (.invalidIri (reference ++ ": " ++ fault.message))

end GraphPattern
