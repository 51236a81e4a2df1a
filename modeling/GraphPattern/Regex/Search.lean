/-
Search for a match.

The expressions that the rest of the text may still match are kept in a list, in a
fixed order and each once.  Reading a character takes each to what is left of it, and a
match is found when one of them matches the empty text at the place reached.
-/
import GraphPattern.Regex.Basic

namespace GraphPattern.Regex

/-- Whether an expression matches the empty text at a place. -/
def nullable (p : Place) : Regex → Bool
  | empty => true
  | word cs => cs.isEmpty
  | oneOf _ => false
  | assert a => a.holds p
  | repeated least _ _ r => least == 0 || r.nullable p
  | group _ r => r.nullable p
  | cat r s => r.nullable p && s.nullable p
  | alt r s => r.nullable p || s.nullable p

def ofWord : List Char → Regex
  | [] => empty
  | cs => word cs

/-- One expression after another, where an empty one in front goes. -/
def andThen (r s : Regex) : Regex :=
  match r with
  | empty => s
  | _ => cat r s

/-- What may follow one turn of a repetition.  Where a turn may be empty, any
number of the turns that are required may have been empty before it. -/
def fewer (r : Regex) (skippable : Bool) (least : Nat) (most : Option Nat) : Regex :=
  repeated (if skippable then 0 else least - 1) (most.map (· - 1)) false r

/-- What is left of an expression after reading `c` at a place, one entry for each
way to read it. -/
def afterChar (p : Place) (c : Char) : Regex → List Regex
  | empty => []
  | word [] => []
  | word (d :: cs) => if d = c then [ofWord cs] else []
  | oneOf s => if s.contains c then [empty] else []
  | assert _ => []
  | repeated least most _ r =>
    if most = some 0 then []
    else (r.afterChar p c).map fun q => andThen q (fewer r (r.nullable p) least most)
  | group _ r => r.afterChar p c
  | cat r s =>
    let front := (r.afterChar p c).map fun q => andThen q s
    if r.nullable p then front ++ s.afterChar p c else front
  | alt r s => r.afterChar p c ++ s.afterChar p c

/-- Leaves out every expression that is equal to the one before it. -/
def dropRepeats : List Regex → List Regex
  | r :: s :: rest => if r = s then dropRepeats (s :: rest) else r :: dropRepeats (s :: rest)
  | rs => rs

/-- Expressions in a fixed order, each once. -/
def distinct (rs : List Regex) : List Regex :=
  dropRepeats (rs.mergeSort fun r s => (compare r s).isLE)

/-- Whether one of `states` matches a beginning of the rest of the text, or `r` a
part of it that begins anywhere. -/
def searchFrom (r : Regex) (states : List Regex) (before : Option Char) : List Char → Bool
  | [] => (r :: states).any (nullable ⟨before, none⟩)
  | c :: rest =>
    let p : Place := ⟨before, some c⟩
    let states := r :: states
    states.any (nullable p) ||
      searchFrom r (distinct (states.flatMap (afterChar p c))) (some c) rest

def isMatch (r : Regex) (s : String) : Bool := searchFrom r [] none s.toList

end GraphPattern.Regex
