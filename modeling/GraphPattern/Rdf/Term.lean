/-
RDF terms.

A term is an IRI, a blank node or a literal; a literal carries a language tag or
a datatype, and a plain literal is one of datatype `xsd:string`.  IRIs, blank
node ids and language tags are valid by construction.
-/
import GraphPattern.Iri.Resolve
import GraphPattern.Rdf.LanguageTag
import GraphPattern.Number.Integer
import GraphPattern.Number.Double

namespace GraphPattern

def Iri.isAbsolute (s : String) : Bool :=
  match Iri.Components.ofAbsolute s.toList with
  | .ok _ => true
  | .error _ => false

/-- An absolute IRI. -/
structure Iri where
  text : String
  valid : Iri.isAbsolute text = true
deriving DecidableEq

namespace Iri

def ofText (s : String) : Except Fault Iri :=
  match h : Components.ofAbsolute s.toList with
  | .ok _ => .ok ⟨s, by simp [isAbsolute, h]⟩
  | .error fault => .error fault

/-- The namespace of the built-in datatypes. -/
def xsd : String := "http://www.w3.org/2001/XMLSchema#"

def xsdString : Iri := ⟨"http://www.w3.org/2001/XMLSchema#string", by decide +kernel⟩

def xsdInteger : Iri := ⟨"http://www.w3.org/2001/XMLSchema#integer", by decide +kernel⟩

def xsdDouble : Iri := ⟨"http://www.w3.org/2001/XMLSchema#double", by decide +kernel⟩

def xsdBoolean : Iri := ⟨"http://www.w3.org/2001/XMLSchema#boolean", by decide +kernel⟩

/-- The datatype of literals with a language tag. -/
def rdfLangString : Iri :=
  ⟨"http://www.w3.org/1999/02/22-rdf-syntax-ns#langString", by decide +kernel⟩

end Iri

namespace BlankNode

/-- Letters and digits that may start a blank node id. -/
def isIdStart (c : Char) : Bool :=
  Iri.isAsciiAlphanumeric c || c == '_' || c == ':' ||
    Iri.inRange c 0xC0 0xD6 || Iri.inRange c 0xD8 0xF6 || Iri.inRange c 0xF8 0x2FF ||
    Iri.inRange c 0x370 0x37D || Iri.inRange c 0x37F 0x1FFF || Iri.inRange c 0x200C 0x200D ||
    Iri.inRange c 0x2070 0x218F || Iri.inRange c 0x2C00 0x2FEF ||
    Iri.inRange c 0x3001 0xD7FF || Iri.inRange c 0xF900 0xFDCF ||
    Iri.inRange c 0xFDF0 0xFFFD || Iri.inRange c 0x10000 0xEFFFF

/-- What may stand in a blank node id after its start. -/
def isIdPart (c : Char) : Bool :=
  isIdStart c || c == '.' || c == '-' || c.toNat == 0xB7 || Iri.inRange c 0x300 0x36F ||
    Iri.inRange c 0x203F 0x2040

/-- A start, parts, and no dot at the end. -/
def isId (s : String) : Bool :=
  match s.toList with
  | [] => false
  | c :: cs => isIdStart c && cs.all isIdPart && cs.getLast? != some '.'

end BlankNode

/-- A blank node, known by its id. -/
structure BlankNode where
  id : String
  valid : BlankNode.isId id = true
deriving DecidableEq

def BlankNode.ofId? (s : String) : Option BlankNode :=
  if h : BlankNode.isId s = true then some ⟨s, h⟩ else none

/-- What a literal carries besides its text. -/
inductive LiteralKind where
  | tagged (tag : LanguageTag)
  | typed (datatype : Iri)
deriving DecidableEq

/-- A literal: a text with a language tag or a datatype. -/
structure Literal where
  value : String
  kind : LiteralKind
deriving DecidableEq

namespace Literal

def typed (value : String) (datatype : Iri) : Literal := ⟨value, .typed datatype⟩

def plain (value : String) : Literal := typed value Iri.xsdString

def tagged (value : String) (tag : LanguageTag) : Literal := ⟨value, .tagged tag⟩

def ofInt (n : Int) : Literal := typed (Integer.text n) Iri.xsdInteger

def boolText (b : Bool) : String := if b then "true" else "false"

def ofBool (b : Bool) : Literal := typed (boolText b) Iri.xsdBoolean

/-- The text of a binary64 number as a literal: infinities are in capitals. -/
def doubleText (x : Float) : String :=
  match Binary64.decode x with
  | .infinite negative => Double.signText negative ++ "INF"
  | _ => Double.text x

def ofDouble (x : Float) : Literal := typed (doubleText x) Iri.xsdDouble

def language? (l : Literal) : Option LanguageTag :=
  match l.kind with
  | .tagged tag => some tag
  | .typed _ => none

/-- The datatype; one with a language tag is an `rdf:langString`. -/
def datatype (l : Literal) : Iri :=
  match l.kind with
  | .tagged _ => Iri.rdfLangString
  | .typed datatype => datatype

end Literal

/-- An RDF term. -/
inductive Term where
  | iri (iri : Iri)
  | blank (node : BlankNode)
  | literal (literal : Literal)
deriving DecidableEq

/-- What may be the subject of a triple: any term but a literal. -/
inductive Subject where
  | iri (iri : Iri)
  | blank (node : BlankNode)
deriving DecidableEq

def Subject.term : Subject → Term
  | .iri i => .iri i
  | .blank b => .blank b

namespace Term

def literal? : Term → Option Literal
  | .literal l => some l
  | _ => none

/-- The term as a subject. -/
def subject? : Term → Option Subject
  | .iri i => some (.iri i)
  | .blank b => some (.blank b)
  | .literal _ => none

/-- The term as a predicate: only an IRI can be one. -/
def predicate? : Term → Option Iri
  | .iri i => some i
  | _ => none

/-- The text that a term consists of: the IRI, the blank node id, the literal's
text. -/
def lexical : Term → String
  | .iri i => i.text
  | .blank b => b.id
  | .literal l => l.value

end Term

end GraphPattern
