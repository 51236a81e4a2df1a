/-
Sets of characters as octets.

The UTF-8 forms of the characters in a range are not all sequences between the first
and the last one.  A range is cut into pieces for which they are: in each piece the
forms have one length, and wherever two of them differ in an octet the octets behind
it take all values.
-/
import GraphPattern.CharSet.Basic

namespace GraphPattern

/-- The octets from `first` to `last`. -/
structure OctetRange where
  first : UInt8
  last : UInt8
deriving DecidableEq, Repr

namespace CodeRange

/-- The last character before a cut that `r` needs because its ends are in blocks of
`size` characters that are not the same, and one of them is not complete. -/
def blockCut? (r : CodeRange) (size : Nat) : Option Nat :=
  if r.first / size = r.last / size then none
  else if r.first % size ≠ 0 then some (r.first / size * size + size - 1)
  else if r.last % size ≠ size - 1 then some (r.last / size * size - 1)
  else none

/-- The last character before the first cut that a range needs: where the forms grow
longer, or else where a block is not complete. -/
def cut? (r : CodeRange) : Option Nat :=
  match [0x7F, 0x7FF, 0xFFFF].find? fun c => r.first ≤ c && c < r.last with
  | some c => some c
  | none => if r.last ≤ 0x7F then none else [64, 4096, 262144].findSome? r.blockCut?

def pieces (r : CodeRange) : List CodeRange :=
  match r.cut? with
  | none => [r]
  | some c =>
    if r.first ≤ c ∧ c < r.last then pieces ⟨r.first, c⟩ ++ pieces ⟨c + 1, r.last⟩ else [r]
termination_by r.last - r.first
decreasing_by all_goals omega

/-- A range without the codes that belong to no character. -/
def withoutBlanks (r : CodeRange) : List CodeRange :=
  if r.first < 0xE000 && 0xD7FF < r.last then [⟨r.first, 0xD7FF⟩, ⟨0xE000, r.last⟩] else [r]

/-- The octets of the forms in a piece. -/
def octets (r : CodeRange) : List OctetRange :=
  List.zipWith OctetRange.mk (String.utf8EncodeChar (Char.ofNat r.first))
    (String.utf8EncodeChar (Char.ofNat r.last))

end CodeRange

def CharSet.octets (s : CharSet) : List (List OctetRange) :=
  s.ranges.toList.flatMap fun r =>
    (r.withoutBlanks.flatMap CodeRange.pieces).map CodeRange.octets

end GraphPattern
