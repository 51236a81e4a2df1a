/-
Places in a YAML text, and how far they are from its beginning.
-/

namespace GraphPattern.Yaml

/-- Why a text is no YAML document of the expected form. -/
inductive Fault where
  | badCharacter
  | badIndentation
  | badKey
  | badScalar
  | badTag
  | badAnchor
  | badDirective
  | badStructure
  | badDocument
  | badValue
deriving DecidableEq, Repr

def Fault.message : Fault → String
  | .badCharacter => "a character that is not allowed"
  | .badIndentation => "bad indentation"
  | .badKey => "bad mapping key"
  | .badScalar => "bad scalar"
  | .badTag => "bad tag"
  | .badAnchor => "bad anchor"
  | .badDirective => "bad directive"
  | .badStructure => "bad structure"
  | .badDocument => "not one document"
  | .badValue => "a value of the wrong kind"

/-- What is left of a text, and the line, the column and the number of octets before
it. -/
structure Place where
  rest : List Char
  line : Nat
  column : Nat
  offset : Nat

def isBreak (c : Char) : Bool :=
  c == '\r' || c == '\n' || c.toNat == 0x85 || c.toNat == 0x2028 || c.toNat == 0x2029

/-- Blanks within a line. -/
def isBlank (c : Char) : Bool := c == ' ' || c == '\t'

/-- The characters that a text may contain. -/
def isAllowed (c : Char) : Bool :=
  let n := c.toNat
  n == 0x09 || n == 0x0A || n == 0x0D || (0x20 ≤ n && n ≤ 0x7E) || n == 0x85 ||
    (0xA0 ≤ n && n ≤ 0xD7FF) || (0xE000 ≤ n && n ≤ 0xFFFD) || 0x10000 ≤ n

/-- A line end, or the end of the text. -/
def endsLine (c : Option Char) : Bool :=
  match c with
  | none => true
  | some c => isBreak c

/-- A blank, a line end, or the end of the text. -/
def endsWord (c : Option Char) : Bool :=
  match c with
  | none => true
  | some c => isBlank c || isBreak c

namespace Place

def start (s : String) : Place := ⟨s.toList, 0, 0, 0⟩

def peek (p : Place) (n : Nat) : Option Char := p.rest[n]?

def at? (p : Place) (c : Char) : Bool := p.peek 0 == some c

/-- The number of octets before the place `n` characters further on. -/
def offsetBehind (p : Place) (n : Nat) : Nat :=
  (p.rest.take n).foldl (fun k c => k + c.utf8Size) p.offset

def skip (p : Place) (n : Nat) : Place :=
  { p with rest := p.rest.drop n, column := p.column + n, offset := p.offsetBehind n }

/-- Passes over characters of a line as long as `f` accepts them. -/
def skipWhile (p : Place) (f : Char → Bool) : Place := p.skip (p.rest.takeWhile f).length

def skipLine (p : Place) : Place := p.skipWhile fun c => !isBreak c

def newLine (p : Place) (n : Nat) : Place :=
  { rest := p.rest.drop n, line := p.line + 1, column := 0, offset := p.offsetBehind n }

/-- Reads a line end, if there is one; all but two kinds count as a line feed. -/
def readBreak (p : Place) : List Char × Place :=
  match p.rest with
  | '\r' :: '\n' :: _ => (['\n'], p.newLine 2)
  | c :: _ =>
    if isBreak c then
      ([if c.toNat == 0x2028 || c.toNat == 0x2029 then c else '\n'], p.newLine 1)
    else ([], p)
  | [] => ([], p)

/-- Passes over a mark of the byte order at the beginning of a line; it takes up a
column. -/
def skipOrderMark (p : Place) : Place :=
  if p.column == 0 && p.at? (Char.ofNat 0xFEFF) then p.skip 1 else p

/-- Whether a line here is the mark of a document's beginning or end. -/
def atMark (p : Place) (c : Char) : Bool :=
  p.column == 0 && p.peek 0 == some c && p.peek 1 == some c && p.peek 2 == some c &&
    endsWord (p.peek 3)

/-- Whether either mark is here. -/
def atAnyMark (p : Place) : Bool := p.atMark '-' || p.atMark '.'

end Place

end GraphPattern.Yaml
