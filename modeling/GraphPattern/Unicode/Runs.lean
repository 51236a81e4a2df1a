/-
Tables of sets.

A set is written as the lengths of its gaps and runs in turn, "65 26 6 26": the
first 65 codes are outside, the next 26 inside, and so on.  Each stands under its
names, which are compared without regard to case, blanks, hyphens and underscores.
-/
import GraphPattern.CharSet.Basic

namespace GraphPattern.Unicode

/-- The ranges that gaps and runs make from the code `start` on. -/
def rangesFrom (start : Nat) : List Nat → List CodeRange
  | gap :: length :: rest =>
    ⟨start + gap, start + gap + length - 1⟩ :: rangesFrom (start + gap + length) rest
  | _ => []

/-- A set in a table: its names, and its gaps and runs in lines of numbers. -/
structure NamedRuns where
  names : List String
  lines : List String

namespace NamedRuns

def ranges (entry : NamedRuns) : List CodeRange :=
  rangesFrom 0 (entry.lines.flatMap fun line => (line.splitOn " ").filterMap String.toNat?)

def set (entry : NamedRuns) : CharSet := CharSet.ofRanges entry.ranges

end NamedRuns

/-- A name as it is compared: ASCII letters in lower case, without blanks, hyphens,
underscores and what is not ASCII. -/
def looseName (s : String) : String :=
  String.ofList <|
    (s.toList.filter fun c => c.toNat < 128 && c != ' ' && c != '_' && c != '-').map Char.toLower

/-- The entry with a given name, in the form in which names are compared. -/
def findRuns? (table : List NamedRuns) (name : String) : Option NamedRuns :=
  table.find? fun entry => entry.names.any fun known => looseName known == name

/-- The set with a given name, in the form in which names are compared. -/
def findSet? (table : List NamedRuns) (name : String) : Option CharSet :=
  (findRuns? table name).map (·.set)

/-- The set with a given name in a table that has it. -/
def namedSet (table : List NamedRuns) (name : String) : CharSet :=
  (findSet? table (looseName name)).getD .empty

end GraphPattern.Unicode
