/-
Regular expressions as they are written.

The text is read from left to right.  A group that is open waits on a stack with
the flags that held before it and the parts that stand before it; flags set inside
of it hold to its end.
-/
import GraphPattern.Regex.Bracketed
import GraphPattern.Regex.Footprint
import GraphPattern.Unicode.Property

namespace GraphPattern.Regex

def maxDepth : Nat := 250

/-- A part that has been read, with its nesting; a change of flags is a part that
cannot be repeated. -/
inductive Part where
  | flags
  | regex (r : Regex) (depth : Nat)

namespace Part

def expr : Part → Regex
  | flags => .empty
  | regex r _ => r

def depth : Part → Nat
  | flags => 0
  | regex _ d => d

def maxDepth (parts : List Part) : Nat := parts.foldl (fun d p => max d p.depth) 0

/-- Several parts as one: `join` of what they stand for, nested once more. -/
def combine (join : List Regex → Regex) (parts : List Part) : Part :=
  match parts with
  | [] => regex .empty 0
  | [p] => p
  | _ => regex (join (parts.map expr)) (maxDepth parts + 1)

end Part

/-- The parts of a group: finished alternatives and the parts of the current one,
the latest first. -/
structure Branches where
  done : List Part
  parts : List Part

namespace Branches

def empty : Branches := ⟨[], []⟩

def add (b : Branches) (p : Part) : Branches := { b with parts := p :: b.parts }

def current (b : Branches) : Part := Part.combine concat b.parts.reverse

def next (b : Branches) : Branches := ⟨b.current :: b.done, []⟩

def close (b : Branches) : Part := Part.combine alternate (b.current :: b.done).reverse

end Branches

/-- An open group: its number if it has one, the flags to return to, and the parts
before it. -/
structure Group where
  number : Option Nat
  flags : Flags
  before : Branches

/-- How far a text has been read.  `numbered` counts the groups with a number. -/
structure Reader where
  flags : Flags
  branches : Branches
  groups : List Group
  numbered : Nat
  names : List (List Char)

namespace Reader

def add (r : Reader) (p : Part) : Reader := { r with branches := r.branches.add p }

def push (r : Reader) (flags : Flags) : Reader :=
  { r with
    flags := flags
    branches := .empty
    groups := ⟨none, r.flags, r.branches⟩ :: r.groups }

/-- Opens a group with the next number. -/
def pushNumbered (r : Reader) : Reader :=
  { r with
    branches := .empty
    groups := ⟨some r.numbered, r.flags, r.branches⟩ :: r.groups
    numbered := r.numbered + 1 }

def pop (r : Reader) : Except Fault Reader :=
  match r.groups with
  | [] => .error .badGroup
  | g :: groups =>
    let p := r.branches.close
    let e := match g.number with
      | some n => group n p.expr
      | none => p.expr
    .ok
      { r with
        flags := g.flags
        branches := g.before.add (.regex e (p.depth + 1))
        groups := groups }

/-- Repeats the latest part, and skips the mark of a reluctant repetition behind
it. -/
def repeatLast (r : Reader) (least : Nat) (most : Option Nat) (cs : List Char) :
    Except Fault (Reader × List Char) :=
  let (marked, rest) := match cs with
    | '?' :: rest => (true, rest)
    | _ => (false, cs)
  match r.branches.parts with
  | .regex e d :: parts =>
    let e := e.times least most (marked != r.flags.reluctant)
    .ok ({ r with branches := { r.branches with parts := .regex e (d + 1) :: parts } }, rest)
  | _ => .error .badRepetition

end Reader

def charRegex (f : Flags) (c : Char) (byte : Bool) : Except Fault Regex :=
  if byte && !f.unicode && 128 ≤ c.toNat then .error .badAscii
  else if f.foldCase then
    match f.caseClasses.find? fun codes => codes.contains c.toNat with
    | some codes => .ok (oneOf (.ofRanges (codes.map CodeRange.single)))
    | none => .ok (word [c])
  else .ok (word [c])

def atomRegex (f : Flags) : Atom → Except Fault Regex
  | .char c byte => charRegex f c byte
  | .set s => .ok (ofSet s)
  | .assert a => .ok (.assert a)

def dotSet (f : Flags) : Except Fault CharSet :=
  if !f.unicode then .error .badAscii
  else if f.dotAll then .ok .all
  else if f.anyLineEnd then .ok ((CharSet.single '\n').union (.single '\r')).compl
  else .ok (CharSet.single '\n').compl

def startAssertion (f : Flags) : Assertion :=
  if !f.multiLine then .textStart else if f.anyLineEnd then .anyLineStart else .lineStart

def endAssertion (f : Flags) : Assertion :=
  if !f.multiLine then .textEnd else if f.anyLineEnd then .anyLineEnd else .lineEnd

/-- What a group name may begin with. -/
def isNameStart (c : Char) : Bool := c == '_' || Unicode.isAlphabetic c

/-- What may follow in a group name. -/
def isNamePart (c : Char) : Bool :=
  c == '_' || c == '.' || c == '[' || c == ']' || Unicode.isAlphanumeric c

/-- Reads a group name and the bracket behind it. -/
def readGroupName (cs : List Char) : Except Fault (List Char × List Char) :=
  let (name, rest) := cs.span fun c => c != '>'
  match name, rest with
  | c :: others, _ :: rest =>
    if isNameStart c && others.all isNamePart then .ok (c :: others, rest)
    else .error .badGroup
  | _, _ => .error .badGroup

/-- Opens a group with a name that is new. -/
def openNamed (r : Reader) (cs : List Char) : Except Fault (Reader × List Char) := do
  let (name, rest) ← readGroupName cs
  if name ∈ r.names then .error .badGroup
  else return ({ r with names := name :: r.names }.pushNumbered, rest)

/-- Reads what follows an opening parenthesis. -/
def openGroup (r : Reader) (cs : List Char) : Except Fault (Reader × List Char) :=
  match r.flags.skip cs with
  | '?' :: 'P' :: '<' :: cs => openNamed r cs
  | '?' :: '=' :: _ => .error .lookAround
  | '?' :: '!' :: _ => .error .lookAround
  | '?' :: '<' :: '=' :: _ => .error .lookAround
  | '?' :: '<' :: '!' :: _ => .error .lookAround
  | '?' :: '<' :: cs => openNamed r cs
  | '?' :: cs => do
    let (flags, seen, rest) ← readFlags r.flags [] cs
    match rest with
    | ':' :: rest => return (r.push flags, rest)
    | ')' :: rest =>
      if seen.isEmpty then .error .badRepetition
      else return ({ r with flags := flags }.add .flags, rest)
    | _ => .error .badFlags
  | cs => .ok (r.pushNumbered, cs)

/-- Adds an atom that has been read. -/
def addAtom (r : Reader) (read : Except Fault (Atom × List Char)) :
    Except Fault (Reader × List Char) := do
  let (atom, rest) ← read
  let e ← atomRegex r.flags atom
  return (r.add (.regex e 0), rest)

/-- Reads one part, or one sign that belongs to a part; `c` is its first
character. -/
def readPart (r : Reader) (c : Char) (cs : List Char) : Except Fault (Reader × List Char) :=
  if c == '(' then openGroup r cs
  else if c == ')' then do return (← r.pop, cs)
  else if c == '|' then .ok ({ r with branches := r.branches.next }, cs)
  else if c == '[' then do
    let (cls, rest) ← readBracketed r.flags cs
    return (r.add (.regex (ofSet cls.set) cls.depth), rest)
  else if c == '?' then r.repeatLast 0 (some 1) cs
  else if c == '*' then r.repeatLast 0 none cs
  else if c == '+' then r.repeatLast 1 none cs
  else if c == '\x7b' then do
    let (least, most, rest) ← readBounds r.flags cs
    r.repeatLast least most (r.flags.skip rest)
  else if c == '\\' then addAtom r (readEscape r.flags cs)
  else if c == '.' then addAtom r ((dotSet r.flags).map fun s => (.set s, cs))
  else if c == '^' then addAtom r (.ok (.assert (startAssertion r.flags), cs))
  else if c == '$' then addAtom r (.ok (.assert (endAssertion r.flags), cs))
  else addAtom r (.ok (.char c false, cs))

/-- Reads parts to the end of the text.  Each takes a character at least. -/
def readParts : Nat → Reader → List Char → Except Fault Reader
  | 0, r, _ => .ok r
  | fuel + 1, r, cs =>
    match r.flags.skip cs with
    | [] => .ok r
    | c :: cs =>
      match readPart r c cs with
      | .error fault => .error fault
      | .ok (r, cs) => readParts fuel r cs

/-- The expression that a text stands for where `flags` hold. -/
def parse (flags : Flags) (s : String) : Except Fault Regex := do
  let cs := s.toList
  let r ← readParts (cs.length + 1) ⟨flags, .empty, [], 1, []⟩ cs
  if !r.groups.isEmpty then .error .badGroup
  else
    let p := r.branches.close
    if maxDepth < p.depth then .error .tooDeep
    else if !p.expr.fits then .error .tooBig
    else return p.expr

/-- Sets flags that stand behind a pattern. -/
def setFlags (f : Flags) : List Char → Except Fault Flags
  | [] => .ok f
  | c :: cs =>
    if c == 'i' then setFlags { f with foldCase := true } cs
    else if c == 'm' then setFlags { f with multiLine := true } cs
    else if c == 's' then setFlags { f with dotAll := true } cs
    else if c == 'x' then setFlags { f with spaced := true } cs
    else .error (.unknownFlag c)

/-- Cuts a text at its last slash. -/
def splitLastSlash (cs : List Char) : Option (List Char × List Char) :=
  let (back, front) := cs.reverse.span fun c => c != '/'
  match front with
  | [] => none
  | _ :: front => some (front.reverse, back.reverse)

/-- The pattern and the flags of a source text: `/pattern/flags`, or a pattern
alone. -/
def splitSource (source : String) : List Char × List Char :=
  match source.toList with
  | '/' :: rest => (splitLastSlash rest).getD (source.toList, [])
  | cs => (cs, [])

/-- The expression that a source text stands for. -/
def ofSource (source : String) : Except Fault Regex := do
  let (pattern, letters) := splitSource source
  parse (← setFlags .default letters) (String.ofList pattern)

end GraphPattern.Regex
