/-
Settings that all queries of an engine share, and their YAML form.

A document gives some of the settings; the others keep their defaults, and names
that are not settings are ignored.  `Config.ofYaml` reads such a document and
`Config.toYaml` writes one with all settings.
-/
import GraphPattern.Query.Planner
import GraphPattern.Yaml.Node

namespace GraphPattern

/-- The settings of an engine. -/
structure Config where
  ordering : PlanStrategy
  /-- Whether the common prefixes are declared for every query. -/
  builtinPrefixes : Bool
  /-- Whether more is logged; no answer depends on it. -/
  verbose : Bool
  /-- The base of queries that have none of their own. -/
  baseUri : Option String
deriving DecidableEq, Repr

namespace Config

open Yaml (Document Node Style Tag Fault)

def default : Config := ⟨.connectivity, true, false, none⟩

/-- The tag that YAML gives to the values of a type. -/
def coreTag (name : String) : Tag := .ofText ("tag:yaml.org,2002:" ++ name)

/-- Whether a text says that there is no value. -/
def isNull (s : String) : Bool := s = "null" || s = "Null" || s = "NULL" || s = "~"

/-- Whether the text of a scalar is read as a value of a type: it is plain, or a
literal block with the tag of the type. -/
def isTyped (type : String) (tag : Option Tag) (style : Style) : Bool :=
  style == .plain || (style == .literal && tag == some (coreTag type))

def readBool (n : Node) : Except Fault Bool :=
  match n with
  | .scalar tag s style =>
    if !isTyped "bool" tag style then .error .badValue
    else if s = "true" || s = "True" || s = "TRUE" then .ok true
    else if s = "false" || s = "False" || s = "FALSE" then .ok false
    else .error .badValue
  | _ => .error .badValue

def readText? (n : Node) : Except Fault (Option String) :=
  match n with
  | .scalar tag s style =>
    if style != .plain then .ok (some s)
    else
      match tag with
      | some tag =>
        if tag = coreTag "null" then if isNull s then .ok none else .error .badValue
        else .ok (some s)
      | none => if s = "" || isNull s then .ok none else .ok (some s)
  | _ => .error .badValue

def strategyNamed (name : String) : Except Fault PlanStrategy :=
  if name = "connectivity" then .ok .connectivity
  else if name = "declared" then .ok .declared
  else .error .badValue

/-- The name that a tag of its own gives to a node; it may be empty. -/
def ownTag? (n : Node) : Option String := do
  let tag ← n.tag?
  match (← tag.text?).toList with
  | '!' :: cs => some (String.ofList cs)
  | _ => none

/-- The strategy of a node: the name is its text, or its tag with no value behind
it. -/
def readStrategy (n : Node) : Except Fault PlanStrategy :=
  match ownTag? n with
  | some name =>
    match n with
    | .scalar tag s style =>
      if isTyped "null" tag style && (s = "" || isNull s) then strategyNamed name
      else .error .badValue
    | _ => .error .badValue
  | none =>
    match n with
    | .scalar _ s _ => strategyNamed s
    | _ => .error .badValue

/-- Reads one setting; names that are no settings are ignored. -/
def readSetting (c : Config) (name : String) (n : Node) : Except Fault Config :=
  if name = "ordering" then do return { c with ordering := ← readStrategy n }
  else if name = "builtin_prefixes" then do return { c with builtinPrefixes := ← readBool n }
  else if name = "verbose" then do return { c with verbose := ← readBool n }
  else if name = "base_uri" then do return { c with baseUri := ← readText? n }
  else .ok c

def settingNames : List String := ["ordering", "builtin_prefixes", "verbose", "base_uri"]

/-- Reads settings in turn; none may be given twice. -/
def readSettings (d : Document) (c : Config) (seen : List String) :
    List (Node × Node) → Except Fault Config
  | [] => .ok c
  | (key, n) :: rest => do
    match d.target key with
    | .scalar _ name _ =>
      if name ∈ settingNames && name ∈ seen then throw .badKey
      readSettings d (← c.readSetting name (d.target n)) (name :: seen) rest
    | _ => throw .badKey

/-- The settings of a document.  One without content gives none. -/
def ofDocument (d : Option Document) : Except Fault Config :=
  match d with
  | none => .ok default
  | some d =>
    match d.root with
    | .mapping _ entries => readSettings d default [] entries
    | .scalar _ "" .plain => .ok default
    | _ => .error .badValue

def ofYaml (s : String) : Except Fault Config := do ofDocument (← Yaml.document s)

/-- Eight hexadecimal digits. -/
def hexCode (n : Nat) : List Char :=
  let ds := Nat.toDigits 16 n
  List.replicate (8 - ds.length) '0' ++ ds

def quotedChar (c : Char) : List Char :=
  if c == '"' || c == '\\' then ['\\', c]
  else if (' ' ≤ c && c ≤ '~') || (Iri.isForeignPlain c && !Yaml.isBreak c) then [c]
  else ['\\', 'U'] ++ hexCode c.toNat

def quoted (s : String) : String :=
  String.ofList ('"' :: (s.toList.flatMap quotedChar ++ ['"']))

def strategyName : PlanStrategy → String
  | .connectivity => "connectivity"
  | .declared => "declared"

def toYaml (c : Config) : String :=
  "ordering: " ++ strategyName c.ordering ++
    "\nbuiltin_prefixes: " ++ Literal.boolText c.builtinPrefixes ++
    "\nverbose: " ++ Literal.boolText c.verbose ++
    "\nbase_uri: " ++ (c.baseUri.map quoted).getD "null" ++ "\n"

end Config

end GraphPattern
