/-
The texts of terms.

`Term.text` is the short form that answers and messages show: the text of a
literal stands between quotes as it is, always with its language tag or datatype.
`Term.ntriples` is the N-Triples form, which escapes it and leaves `xsd:string`
out.
-/
import GraphPattern.Rdf.Term

namespace GraphPattern

def Iri.bracketed (i : Iri) : String := "<" ++ i.text ++ ">"

/-- A blank node behind its mark. -/
def BlankNode.marked (b : BlankNode) : String := "_:" ++ b.id

def Literal.text (l : Literal) : String :=
  "\"" ++ l.value ++ "\"" ++
    match l.kind with
    | .tagged tag => "@" ++ tag.text
    | .typed datatype => "^^" ++ datatype.bracketed

def Term.text : Term → String
  | .iri i => i.bracketed
  | .blank b => b.marked
  | .literal l => l.text

def Subject.text (s : Subject) : String := s.term.text

namespace Literal

def hexDigit (n : Nat) : Char :=
  if n < 10 then Char.ofNat (0x30 + n) else Char.ofNat (0x41 + (n - 10))

/-- A character given by four hexadecimal digits. -/
def controlEscape (c : Char) : List Char :=
  let n := c.toNat
  ['\\', 'u', hexDigit (n / 4096 % 16), hexDigit (n / 256 % 16), hexDigit (n / 16 % 16),
    hexDigit (n % 16)]

/-- What stands for a character of a literal in N-Triples. -/
def escapedChar (c : Char) : List Char :=
  if c == '\x08' then ['\\', 'b']
  else if c == '\t' then ['\\', 't']
  else if c == '\n' then ['\\', 'n']
  else if c == '\x0c' then ['\\', 'f']
  else if c == '\r' then ['\\', 'r']
  else if c == '"' then ['\\', '"']
  else if c == '\\' then ['\\', '\\']
  else if c.toNat < 0x20 || c.toNat == 0x7F then controlEscape c
  else [c]

def escaped (s : String) : String := String.ofList (s.toList.flatMap escapedChar)

def ntriples (l : Literal) : String :=
  "\"" ++ escaped l.value ++ "\"" ++
    match l.kind with
    | .tagged tag => "@" ++ tag.text
    | .typed datatype => if datatype = Iri.xsdString then "" else "^^" ++ datatype.bracketed

end Literal

def Term.ntriples : Term → String
  | .iri i => i.bracketed
  | .blank b => b.marked
  | .literal l => l.ntriples

end GraphPattern
