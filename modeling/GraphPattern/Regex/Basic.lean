/-
Regular expressions.

Whether a text has a match anywhere is all that is asked of one.  Expressions are
built by `ofSet`, `concat`, `alternate` and `times`, which keep them in a simple
form: no word stands beside another, no part is empty without need, and what several
alternatives begin with stands before them once.
-/
import GraphPattern.Regex.Assertion

namespace GraphPattern

/-- A regular expression. -/
inductive Regex where
  | empty
  /-- The characters one after another. -/
  | word (cs : List Char)
  /-- Any one character of a set. -/
  | oneOf (s : CharSet)
  | assert (a : Assertion)
  /-- At least `least` and at most `most` times; as seldom as possible if
  `reluctant`. -/
  | repeated (least : Nat) (most : Option Nat) (reluctant : Bool) (r : Regex)
  /-- What the group with a number holds. -/
  | group (number : Nat) (r : Regex)
  | cat (r s : Regex)
  | alt (r s : Regex)
deriving DecidableEq, Repr, Ord

namespace Regex

def size : Regex → Nat
  | repeated _ _ _ r => r.size + 1
  | group _ r => r.size + 1
  | cat r s => r.size + s.size + 1
  | alt r s => r.size + s.size + 1
  | _ => 1

/-- Whether nothing but the empty text can match. -/
def isWeightless : Regex → Bool
  | empty => true
  | word _ => false
  | oneOf _ => false
  | assert _ => true
  | repeated _ most _ r => most.isSome && r.isWeightless
  | group _ r => r.isWeightless
  | cat r s => r.isWeightless && s.isWeightless
  | alt r s => r.isWeightless && s.isWeightless

def ofSet (s : CharSet) : Regex :=
  match s.only? with
  | some c => word [c]
  | none => oneOf s

/-- One expression after another, as they are. -/
def catAll : List Regex → Regex
  | [] => empty
  | [r] => r
  | r :: rs => cat r (catAll rs)

/-- One of several expressions, as they are. -/
def altAll : List Regex → Regex
  | [] => oneOf .empty
  | [r] => r
  | r :: rs => alt r (altAll rs)

/-- The parts that stand one after another; none if the expression is not made of
several. -/
def factors : Regex → List Regex
  | cat r s =>
    r :: match s with
      | cat _ _ => s.factors
      | _ => [s]
  | _ => []

def branches : Regex → List Regex
  | alt r s => r :: s.branches
  | r => [r]

/-- Puts an expression before others, as one word with a word that comes first. -/
def joinWord (r : Regex) (rest : List Regex) : List Regex :=
  match r, rest with
  | word cs, word ds :: rest => word (cs ++ ds) :: rest
  | r, rest => r :: rest

/-- One expression after another. -/
def concat (rs : List Regex) : Regex :=
  let parts := rs.flatMap fun r =>
    match r with
    | empty => []
    | cat _ _ => r.factors
    | _ => [r]
  catAll (parts.foldr joinWord [])

def word? : Regex → Option (List Char)
  | word cs => some cs
  | _ => none

def set? : Regex → Option CharSet
  | oneOf s => some s
  | _ => none

/-- The set that alternatives stand for if each is one character, or each a set. -/
def unionSet? (rs : List Regex) : Option CharSet :=
  match rs.mapM word? with
  | some words =>
    if words.all (·.length == 1) then
      some (.ofRanges (words.flatten.map fun c => .single c.toNat))
    else none
  | none => (rs.mapM set?).map CharSet.unions

/-- What two lists begin with alike. -/
def commonFront : List Regex → List Regex → List Regex
  | r :: rs, s :: ss => if r = s then r :: commonFront rs ss else []
  | _, _ => []

/-- One of several expressions, where what all begin with is put in front at most
`fuel` times. -/
def alternateWithin : Nat → List Regex → Regex
  | 0, rs => altAll rs
  | fuel + 1, rs =>
    match rs.flatMap branches with
    | [] => oneOf .empty
    | [r] => r
    | r :: rest =>
      match unionSet? (r :: rest) with
      | some s => ofSet s
      | none =>
        let front := rest.foldl (fun front s => commonFront front s.factors) r.factors
        if front.isEmpty then altAll (r :: rest)
        else
          let rests := (r :: rest).map fun s => concat (s.factors.drop front.length)
          concat (front ++ [alternateWithin fuel rests])

/-- One of several expressions. -/
def alternate (rs : List Regex) : Regex :=
  alternateWithin (rs.foldl (fun n r => n + r.size) 1) rs

/-- An expression several times.  One that matches nothing but the empty text is
asked for once at most. -/
def times (least : Nat) (most : Option Nat) (reluctant : Bool) (r : Regex) : Regex :=
  let (least, most) :=
    if r.isWeightless then (min least 1, some (min (most.getD 1) 1)) else (least, most)
  if least = 0 ∧ most = some 0 then empty
  else if least = 1 ∧ most = some 1 then r
  else repeated least most reluctant r

def octetCount (c : Nat) : Nat := (Char.ofNat c).utf8Size

/-- The least number of octets that an expression matches, unless a set in it is
empty. -/
def leastOctets? : Regex → Option Nat
  | empty => some 0
  | word cs => some (cs.foldl (fun n c => n + c.utf8Size) 0)
  | oneOf s => s.ranges[0]?.map fun r => octetCount r.first
  | assert _ => some 0
  | repeated least _ _ r => r.leastOctets?.map (least * ·)
  | group _ r => r.leastOctets?
  | cat r s =>
    match r.leastOctets?, s.leastOctets? with
    | some m, some n => some (m + n)
    | _, _ => none
  | alt r s =>
    match r.leastOctets?, s.leastOctets? with
    | some m, some n => some (min m n)
    | _, _ => none

/-- Whether every match is sure to begin where the text begins. -/
def isAnchored : Regex → Bool
  | assert a => a == .textStart
  | repeated least _ _ r => 0 < least && r.isAnchored
  | group _ r => r.isAnchored
  | cat r s => r.isAnchored || (r.isWeightless && s.isAnchored)
  | alt r s => r.isAnchored && s.isAnchored
  | _ => false

/-- Whether every match is sure to end where the text ends. -/
def isEndAnchored : Regex → Bool
  | assert a => a == .textEnd
  | repeated least _ _ r => 0 < least && r.isEndAnchored
  | group _ r => r.isEndAnchored
  | cat r s => s.isEndAnchored || (s.isWeightless && r.isEndAnchored)
  | alt r s => r.isEndAnchored && s.isEndAnchored
  | _ => false

end Regex

end GraphPattern
