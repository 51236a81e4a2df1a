/-
IPv6 addresses.

Eight groups of one to four hexadecimal digits; one run of at least one group may
be left out and written `::`; the last two groups may be written as an IPv4
address, whose numbers have no leading zeros.
-/
import GraphPattern.Iri.Character

namespace GraphPattern.Iri

def readOctet (cs : List Char) : Option (List Char) :=
  let (ds, rest) := cs.span isAsciiDigit
  if ds.isEmpty || 3 < ds.length then none
  else if ds.head? = some '0' && 1 < ds.length then none
  else if 255 < Nat.ofDigitChars 10 ds 0 then none
  else some rest

/-- Reads a character that has to stand there. -/
def readChar (c : Char) : List Char → Option (List Char)
  | d :: rest => if c = d then some rest else none
  | [] => none

/-- Reads four numbers with dots between them. -/
def readDotted (cs : List Char) : Option (List Char) := do
  let cs ← readOctet cs
  let cs ← readChar '.' cs
  let cs ← readOctet cs
  let cs ← readChar '.' cs
  let cs ← readOctet cs
  let cs ← readChar '.' cs
  readOctet cs

def readGroup (cs : List Char) : Option (List Char) :=
  let (ds, rest) := cs.span isHexDigit
  if ds.isEmpty || 4 < ds.length then none else some rest

/-- The colon before a group, unless it is the first. -/
def readSeparator (first : Bool) (cs : List Char) : Option (List Char) :=
  if first then some cs else readChar ':' cs

/-- What a run of groups turned out to be: how many groups it fills, whether it
ended in an IPv4 address, and the text after it. -/
structure Groups where
  count : Nat
  dotted : Bool
  rest : List Char

/-- Reads at most `room` further groups after `count`. -/
def readGroups : (room count : Nat) → List Char → Groups
  | 0, count, cs => ⟨count, false, cs⟩
  | room + 1, count, cs =>
    let start := readSeparator (count == 0) cs
    match if room = 0 then none else start.bind readDotted with
    | some rest => ⟨count + 2, true, rest⟩
    | none =>
      match start.bind readGroup with
      | some rest => readGroups room (count + 1) rest
      | none => ⟨count, false, cs⟩

def isAddress (cs : List Char) : Bool :=
  let front := readGroups 8 0 cs
  if front.count = 8 then front.rest.isEmpty
  else if front.dotted then false
  else
    match front.rest with
    | ':' :: ':' :: rest => (readGroups (7 - front.count) 0 rest).rest.isEmpty
    | _ => false

end GraphPattern.Iri
