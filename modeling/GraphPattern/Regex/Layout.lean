/-
The automaton of an expression, as far as its size goes.

An automaton reads octets.  Its layout says in which order states are laid out and
what they hold: a state for each octet of a word, two for an assertion's empty place
or a choice, and for a set the states that its characters share.  One automaton reads
forwards and notes where groups begin and end, another reads backwards.
-/
import GraphPattern.CharSet.Utf8
import GraphPattern.Regex.Basic

namespace GraphPattern

/-- How an automaton is laid out.  Octets held besides the states are those for the
arrows of choices and of branches on an octet. -/
inductive Layout where
  /-- Some states, and octets that they hold besides. -/
  | states (count extra : Nat)
  /-- A state for each octet. -/
  | word (octets : List UInt8)
  /-- The states for sequences of octets, read from the front or from the back. -/
  | set (backward : Bool) (forms : List (List OctetRange))
  | both (first second : Layout)
  | copies (count : Nat) (layout : Layout)

namespace Layout

/-- A tree of words up to a node: the sets of arrows that a word's end parts from
each other, the latest first.  An arrow is an octet with the rests of the words that
go on with it, the latest first. -/
abbrev Chunks := List (List (UInt8 × List (List UInt8)))

/-- Adds an arrow for the first octet of a word, or its rest to the arrow that is
there. -/
def addArrow (octet : UInt8) (rest : List UInt8) :
    List (UInt8 × List (List UInt8)) → List (UInt8 × List (List UInt8))
  | [] => [(octet, [rest])]
  | (o, rests) :: arrows =>
    if o = octet then (o, rest :: rests) :: arrows
    else (o, rests) :: addArrow octet rest arrows

/-- Adds a word to a node.  A word that ends there parts what comes before it from
what comes after; a second one that does says nothing new while no arrow leaves the
node. -/
def addWord (chunks : Chunks) (word : List UInt8) : Chunks :=
  match word, chunks with
  | [], chunks =>
    if 2 ≤ chunks.length && chunks.all (·.isEmpty) then chunks else [] :: chunks
  | octet :: rest, [] => [addArrow octet rest []]
  | octet :: rest, arrows :: chunks => addArrow octet rest arrows :: chunks

/-- The states of a tree of words, and the octets that they hold besides: at each
node a choice between its sets of arrows, which may end before each but the first.
`depth` is no less than the length of the longest word. -/
def tree : (depth : Nat) → (words : List (List UInt8)) → Nat × Nat
  | 0, _ => (0, 0)
  | depth + 1, words =>
    if words.all (·.isEmpty) then (0, 0)
    else
      let chunks := words.foldl addWord [[]]
      let filled := chunks.filter fun arrows => !arrows.isEmpty
      let wide := (filled.filter fun arrows => arrows.length != 1).foldl
        (fun n arrows => n + 8 * arrows.length) 0
      let here := (filled.length + 1, wide + 4 * (filled.length + chunks.length - 1))
      (filled.flatten.map fun arrow => tree depth arrow.2.reverse).foldl
        (fun a b => (a.1 + b.1, a.2 + b.2)) here

/-- The layout of a choice between words: a tree and the state where all end. -/
def ofWords (words : List (List UInt8)) : Layout :=
  let (count, extra) := tree ((words.map List.length).foldl max 0 + 1) words
  states (count + 1) extra

/-- The octets of a layout for a word. -/
def word? : Layout → Option (List UInt8)
  | word octets => some octets
  | _ => none

/-- The layout of a choice between alternatives. -/
def ofBranches : List Layout → Layout
  | [] => states 1 0
  | [l] => l
  | l :: m :: rest =>
    match (l :: m :: rest).mapM word? with
    | some words => ofWords words
    | none =>
      rest.foldl (fun whole l => both whole (both l (states 0 4))) (both (both l m) (states 2 8))

/-- The layout of a repetition of `body`, which is sure to take octets if
`advances`. -/
def ofRepeated (least : Nat) (most : Option Nat) (advances : Bool) (body : Layout) : Layout :=
  match most with
  | none =>
    if least = 0 then
      if advances then both (states 1 0) (both body (states 0 8)) else both body (states 3 16)
    else both (copies least body) (states 1 8)
  | some most =>
    if least = 0 ∧ most = 1 then both (states 1 0) (both body (states 1 8))
    else
      let front := if least = 0 then states 1 0 else copies least body
      if least = most then front
      else
        both front
          (both (states 1 0) (copies (most - least) (both (states 1 0) (both body (states 0 8)))))

def textOctets (cs : List Char) : List UInt8 := cs.flatMap String.utf8EncodeChar

/-- The layouts of the alternatives of an expression. -/
def branchesOf (backward : Bool) : Regex → List Layout
  | .empty => [states 1 0]
  | .word cs => [word (if backward then (textOctets cs).reverse else textOctets cs)]
  | .oneOf s =>
    [if s.isAscii then states 2 (8 * s.ranges.size) else set backward s.octets]
  | .assert _ => [states 1 0]
  | .repeated least most _ r =>
    let advances := match r.leastOctets? with
      | some n => 0 < n
      | none => false
    [ofRepeated least most advances (ofBranches (branchesOf backward r))]
  | .group _ r =>
    let mark := states (if backward then 0 else 1) 0
    [both mark (both (ofBranches (branchesOf backward r)) mark)]
  | .cat r s =>
    let first := ofBranches (branchesOf backward r)
    let second := ofBranches (branchesOf backward s)
    [if backward then both second first else both first second]
  | .alt r s => ofBranches (branchesOf backward r) :: branchesOf backward s

/-- The layout of an automaton that finds an expression anywhere, or only where the
text begins if every match begins there; read backwards, where the text ends. -/
def ofRegex (backward : Bool) (r : Regex) : Layout :=
  let anchored := if backward then r.isEndAnchored else r.isAnchored
  let front := if anchored then states 1 0 else states 3 16
  let inner := ofBranches (branchesOf backward r)
  both front
    (if backward then both inner (states 1 0)
      else both (states 1 0) (both inner (states 2 0)))

end Layout

end GraphPattern
