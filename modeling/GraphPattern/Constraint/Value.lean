/-
Values of constraints.

A literal of a numeric datatype, of `xsd:boolean` or of `xsd:string` is read into
the value that it writes; every other term, a malformed literal among them, is a
value as it is.
-/
import GraphPattern.Query.Expression
import GraphPattern.Rdf.Written
import GraphPattern.Text

namespace GraphPattern

/-! ## Terms as messages name them -/

def Iri.described (i : Iri) : String := "NamedNode \x7b iri: " ++ Text.quoted i.text ++ " \x7d"

namespace BlankNode

/-- A digit of a lower-case hexadecimal number. -/
def idDigit? (c : Char) : Option Nat :=
  if '0' ≤ c ∧ c ≤ '9' then some (c.toNat - 0x30)
  else if 'a' ≤ c ∧ c ≤ 'f' then some (c.toNat - 0x57)
  else none

/-- The number of 128 bits that an id writes in lower-case hexadecimal digits, without a zero
in front. -/
def number? (b : BlankNode) : Option Nat :=
  match b.id.toList with
  | [] => none
  | '0' :: _ => none
  | digits =>
    (digits.foldlM (fun n c => (idDigit? c).map (16 * n + ·)) 0).filter (· < 1 <<< 128)

/-- An id that writes a number is named with the 16 octets of the number, the lowest first, and
with the 32 octets of its text. -/
def described (b : BlankNode) : String :=
  match b.number? with
  | none => "Named(" ++ Text.quoted b.id ++ ")"
  | some n =>
    let octets (ns : List Nat) := "[" ++ ", ".intercalate (ns.map toString) ++ "]"
    "Anonymous \x7b id: " ++ octets ((List.range 16).map fun k => (n >>> (8 * k)) % 256) ++
      ", str: IdStr(" ++ octets ((b.id.toList.map Char.toNat).rightpad 32 0) ++ ") \x7d"

end BlankNode

def Literal.described (l : Literal) : String :=
  match l.kind with
  | .tagged tag =>
    "LanguageTaggedString \x7b value: " ++ Text.quoted l.value ++ ", language: " ++
      Text.quoted tag.text ++ " \x7d"
  | .typed datatype =>
    if datatype = Iri.xsdString then "String(" ++ Text.quoted l.value ++ ")"
    else
      "TypedLiteral \x7b value: " ++ Text.quoted l.value ++ ", datatype: " ++
        datatype.described ++ " \x7d"

def Term.described : Term → String
  | .iri i => "NamedNode(NamedNode(" ++ i.described ++ "))"
  | .blank b => "BlankNode(BlankNode(BlankNode(" ++ b.described ++ ")))"
  | .literal l => "Literal(Literal(Literal(" ++ l.described ++ ")))"

/-! ## Values -/

/-- What an expression can evaluate to. -/
inductive Value where
  | boolean (b : Bool)
  | integer (n : Int)
  | double (x : Float)
  | text (s : String)
  | term (t : Term)
  | unbound

/-- Why an expression has no value. -/
inductive EvalError where
  | typeMismatch (detail : String)
  | unbound (place : String)
  | arithmetic (operation : String)
  | badRegex (source reason : String)
  | unsupported (what : String)
deriving DecidableEq, Repr

def EvalError.message : EvalError → String
  | .typeMismatch detail => "Type mismatch: " ++ detail
  | .unbound place => "Unbound variable in " ++ place
  | .arithmetic operation => "Arithmetic error: " ++ operation
  | .badRegex source reason => "Invalid regex " ++ source ++ ": " ++ reason
  | .unsupported what => "Unsupported expression: " ++ what

namespace Value

/-- The datatypes of integers, without their namespace. -/
def integerTypes : List String :=
  ["integer", "int", "long", "short", "byte", "nonNegativeInteger", "nonPositiveInteger",
    "positiveInteger", "negativeInteger", "unsignedLong", "unsignedInt", "unsignedShort",
    "unsignedByte"]

/-- The datatypes of numbers with a fraction, without their namespace. -/
def doubleTypes : List String := ["decimal", "double", "float"]

def builtinName? (datatype : Iri) : Option String :=
  if Iri.xsd.toList.isPrefixOf datatype.text.toList then
    some (String.ofList (datatype.text.toList.drop Iri.xsd.toList.length))
  else none

def readBool? (s : String) : Option Bool :=
  if s = "true" ∨ s = "1" then some true
  else if s = "false" ∨ s = "0" then some false
  else none

/-- The value written by a literal of a built-in datatype; blanks around a number
or truth value do not count. -/
def readBuiltin? (name lexical : String) : Option Value :=
  if name ∈ integerTypes then (Integer.ofText? (Text.trim lexical)).map integer
  else if name ∈ doubleTypes then (Double.ofText? (Text.trim lexical)).map double
  else if name = "boolean" then (readBool? (Text.trim lexical)).map boolean
  else if name = "string" then some (text lexical)
  else none

/-- The value of a literal, if its datatype gives it one. -/
def ofLiteral? (l : Literal) : Option Value :=
  match l.kind with
  | .tagged _ => none
  | .typed datatype => (builtinName? datatype).bind fun name => readBuiltin? name l.value

/-- The value of a term. -/
def ofTerm (t : Term) : Value :=
  match t with
  | .literal l => (ofLiteral? l).getD (term t)
  | _ => term t

def toTerm? : Value → Option Term
  | boolean b => some (.literal (.ofBool b))
  | integer n => some (.literal (.ofInt n))
  | double x => some (.literal (.ofDouble x))
  | text s => some (.literal (.plain s))
  | term t => some t
  | unbound => none

/-- Whether a number is different from zero; NaN is not. -/
def isNonzero (x : Float) : Bool := x != 0 && !x.isNaN

def truth : Value → Except EvalError Bool
  | boolean b => .ok b
  | integer n => .ok (decide (n ≠ 0))
  | double x => .ok (isNonzero x)
  | text s => .ok (decide (s ≠ ""))
  | term t => .error (.typeMismatch (t.text ++ " is not a boolean"))
  | unbound => .error (.unbound "boolean test")

/-- The text that a value counts as. -/
def lexical? : Value → Option String
  | boolean b => some (Literal.boolText b)
  | integer n => some (Integer.text n)
  | double x => some (Double.text x)
  | text s => some s
  | term t => some t.lexical
  | unbound => none

def number? : Value → Option Float
  | integer n => some (Binary64.ofInt n)
  | double x => some x
  | _ => none

def described : Value → String
  | boolean b => "Boolean(" ++ Literal.boolText b ++ ")"
  | integer n => "Integer(" ++ Integer.text n ++ ")"
  | double x => "Double(" ++ Double.scientificText x ++ ")"
  | text s => "String(" ++ Text.quoted s ++ ")"
  | term t => "Term(" ++ t.described ++ ")"
  | unbound => "Unbound"

end Value

end GraphPattern
