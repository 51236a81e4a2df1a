/-
Sets of characters.

A set is kept as ranges that ascend and neither meet nor touch, so that two sets of
the same characters are equal and a character is found by halving.  A range is given
by the codes of its first and its last character.  The codes from D800 to DFFF belong
to no character: a range may span them, but neither of its ends is one of them.
-/

namespace GraphPattern

/-- The characters with codes from `first` to `last`. -/
structure CodeRange where
  first : Nat
  last : Nat
deriving DecidableEq, Repr, Ord

namespace CodeRange

def maxCode : Nat := 0x10FFFF

def single (c : Nat) : CodeRange := ⟨c, c⟩

/-- The range between two characters, given in either order. -/
def between (a b : Nat) : CodeRange := if a ≤ b then ⟨a, b⟩ else ⟨b, a⟩

def contains (r : CodeRange) (c : Nat) : Bool := r.first ≤ c && c ≤ r.last

/-- The code of the character behind the one with code `c`. -/
def next (c : Nat) : Nat := if c = 0xD7FF then 0xE000 else c + 1

/-- The code of the character in front of the one with code `c`. -/
def previous (c : Nat) : Nat := if c = 0xE000 then 0xD7FF else c - 1

def inter (r s : CodeRange) : Option CodeRange :=
  let first := max r.first s.first
  let last := min r.last s.last
  if first ≤ last then some ⟨first, last⟩ else none

def diff (r s : CodeRange) : List CodeRange :=
  if s.last < r.first || r.last < s.first then [r]
  else
    (if r.first < s.first then [between r.first (previous s.first)] else []) ++
      (if s.last < r.last then [between (next s.last) r.last] else [])

/-- Joins `r`, and each range in turn, to the next one that meets or touches it.
The ranges begin in ascending order. -/
def mergeOnto (r : CodeRange) : List CodeRange → List CodeRange
  | [] => [r]
  | s :: rest =>
    if s.first ≤ r.last + 1 then mergeOnto ⟨r.first, max r.last s.last⟩ rest
    else r :: mergeOnto s rest

/-- Ranges that ascend, neither meet nor touch, and cover what `rs` cover. -/
def normalize (rs : List CodeRange) : List CodeRange :=
  match rs.mergeSort fun r s => (compare r s).isLE with
  | [] => []
  | r :: rest => mergeOnto r rest

/-- What lies behind `r` and not in the ranges that follow it.  Two ranges that
leave no character between them, because one ends before D800 and the other begins
behind DFFF, count as parted by these two ends. -/
def gapsAfter (r : CodeRange) : List CodeRange → List CodeRange
  | [] => if r.last < maxCode then [⟨next r.last, maxCode⟩] else []
  | s :: rest => between (next r.last) (previous s.first) :: gapsAfter s rest

/-- What lies outside of ascending ranges. -/
def gaps : List CodeRange → List CodeRange
  | [] => [⟨0, maxCode⟩]
  | r :: rest =>
    (if 0 < r.first then [⟨0, previous r.first⟩] else []) ++ gapsAfter r rest

end CodeRange

/-- A set of characters, as ascending ranges. -/
structure CharSet where
  ranges : Array CodeRange
deriving DecidableEq, Repr, Ord

namespace CharSet

def empty : CharSet := ⟨#[]⟩

def all : CharSet := ⟨#[⟨0, CodeRange.maxCode⟩]⟩

def ofRanges (rs : List CodeRange) : CharSet := ⟨(CodeRange.normalize rs).toArray⟩

def single (c : Char) : CharSet := ⟨#[.single c.toNat]⟩

def range (first last : Char) : CharSet := ⟨#[⟨first.toNat, last.toNat⟩]⟩

/-- Whether the range with an index from `low` to below `high` that could hold a
code does hold it. -/
def search (s : CharSet) (c low high : Nat) : Bool :=
  if low < high then
    let middle := (low + high) / 2
    match s.ranges[middle]? with
    | none => false
    | some r =>
      if c < r.first then s.search c low middle
      else if r.last < c then s.search c (middle + 1) high
      else true
  else false
termination_by high - low
decreasing_by all_goals omega

def containsCode (s : CharSet) (c : Nat) : Bool := s.search c 0 s.ranges.size

def contains (s : CharSet) (c : Char) : Bool := s.containsCode c.toNat

def union (s t : CharSet) : CharSet := ofRanges (s.ranges.toList ++ t.ranges.toList)

def unions (sets : List CharSet) : CharSet := ofRanges (sets.flatMap (·.ranges.toList))

def inter (s t : CharSet) : CharSet :=
  ⟨(s.ranges.toList.flatMap fun r => t.ranges.toList.filterMap r.inter).toArray⟩

def diff (s t : CharSet) : CharSet :=
  ⟨(t.ranges.toList.foldl (fun rs r => rs.flatMap (·.diff r)) s.ranges.toList).toArray⟩

def symDiff (s t : CharSet) : CharSet := (s.union t).diff (s.inter t)

def compl (s : CharSet) : CharSet := ⟨(CodeRange.gaps s.ranges.toList).toArray⟩

/-- The set itself, or what is not in it. -/
def negateIf (negated : Bool) (s : CharSet) : CharSet := if negated then s.compl else s

/-- The set with all members of each class that it meets. -/
def closeUnder (classes : List (List Nat)) (s : CharSet) : CharSet :=
  ofRanges (s.ranges.toList ++
    (classes.filter (·.any s.containsCode)).flatten.map CodeRange.single)

def only? (s : CharSet) : Option Char :=
  match s.ranges with
  | #[r] => if r.first = r.last then some (Char.ofNat r.first) else none
  | _ => none

def isAscii (s : CharSet) : Bool :=
  match s.ranges.back? with
  | none => true
  | some r => r.last < 128

def asciiClasses : List (String × List (Char × Char)) :=
  [ ("alnum", [('0', '9'), ('A', 'Z'), ('a', 'z')]),
    ("alpha", [('A', 'Z'), ('a', 'z')]),
    ("ascii", [('\x00', '\x7f')]),
    ("blank", [('\t', '\t'), (' ', ' ')]),
    ("cntrl", [('\x00', '\x1f'), ('\x7f', '\x7f')]),
    ("digit", [('0', '9')]),
    ("graph", [('!', '~')]),
    ("lower", [('a', 'z')]),
    ("print", [(' ', '~')]),
    ("punct", [('!', '/'), (':', '@'), ('[', '\x60'), ('\x7b', '~')]),
    ("space", [('\t', '\r'), (' ', ' ')]),
    ("upper", [('A', 'Z')]),
    ("word", [('0', '9'), ('A', 'Z'), ('_', '_'), ('a', 'z')]),
    ("xdigit", [('0', '9'), ('A', 'F'), ('a', 'f')]) ]

def ofAsciiName? (name : String) : Option CharSet :=
  (asciiClasses.find? fun entry => entry.1 == name).map fun entry =>
    ofRanges (entry.2.map fun r => ⟨r.1.toNat, r.2.toNat⟩)

def ascii (name : String) : CharSet := (ofAsciiName? name).getD empty

end CharSet

end GraphPattern
