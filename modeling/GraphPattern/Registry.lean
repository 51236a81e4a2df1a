/-
Engines and the registry that finds them.
-/
import GraphPattern.Query.Language
import GraphPattern.Text

namespace GraphPattern

/-- A registered query language. -/
structure Engine where
  name : String
  label : String
  shortName : Option String
  mimeType : Option String
  uri : Option String
  language : Language

namespace Engine

/-- Whether a key is the name, the short name or the URI of an engine. -/
def answersTo (e : Engine) (key : String) : Bool :=
  e.name = key || e.shortName = some key || e.uri = some key

/-- A text that may be missing, as descriptions name it. -/
def describedOption : Option String → String
  | none => "None"
  | some s => "Some(" ++ Text.quoted s ++ ")"

def described (e : Engine) : String :=
  "EngineFactory \x7b name: " ++ Text.quoted e.name ++ ", label: " ++ Text.quoted e.label ++
    ", alias: " ++ describedOption e.shortName ++ ", mime_type: " ++ describedOption e.mimeType ++
    ", uri: " ++ describedOption e.uri ++ ", .. \x7d"

/-- The engine of queries that are built pattern by pattern. -/
def triples : Engine where
  name := "triples"
  label := "Triple patterns"
  shortName := none
  mimeType := none
  uri := some "http://www.w3.org/1999/02/22-rdf-syntax-ns#Statement"
  language := .patterns

end Engine

/-- Engines by name, in the order in which they were registered. -/
structure Registry where
  engines : OrderedMap String Engine

namespace Registry

def empty : Registry := ⟨.empty⟩

def file (r : Registry) (e : Engine) : Registry := ⟨r.engines.insert e.name e⟩

/-- The registry with the built-in engine. -/
def withDefaults : Registry := empty.file .triples

/-- Registers an engine, with what becomes of the registry.  The name must be new; `build`
may then change every field of the engine, which is filed under the name that it has after
that.  A builder may have effects, in whatever monad. -/
def registerWith {m : Type → Type} [Monad m] (r : Registry) (name label : String)
    (shortName uri : Option String) (build : Engine → m Engine) :
    m (Except QueryError Engine × Registry) :=
  if r.engines.contains name then pure (.error (.duplicateName name), r)
  else do
    let e ← build ⟨name, label, shortName, none, uri, .patterns⟩
    return (.ok e, r.file e)

def register (r : Registry) (name label : String) (shortName uri : Option String)
    (build : Engine → Engine) : Except QueryError Engine × Registry :=
  (r.registerWith (m := Id) name label shortName uri fun e => pure (build e)).run

/-- The engine that a key names; names come before short names and URIs. -/
def lookup (r : Registry) (key : String) : Except QueryError Engine :=
  match r.engines.get? key with
  | some e => .ok e
  | none =>
    match r.engines.values.find? (·.answersTo key) with
    | some e => .ok e
    | none => .error (.notFound key)

def names (r : Registry) : List String := r.engines.keys

def size (r : Registry) : Nat := r.engines.entries.length

def clear (_ : Registry) : Registry := empty

end Registry

end GraphPattern
