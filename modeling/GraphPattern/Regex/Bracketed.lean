/-
Bracketed character classes.

Between brackets stand characters, ranges, classes and further brackets; `&&`,
`--` and `~~` combine what is left of them with what is right, from left to
right.
-/
import GraphPattern.Regex.Token

namespace GraphPattern.Regex

/-- How two parts of a class are combined. -/
inductive ClassOp where
  | inter
  | diff
  | symDiff
deriving DecidableEq, Repr

def ClassOp.apply : ClassOp → CharSet → CharSet → CharSet
  | inter, s, t => s.inter t
  | diff, s, t => s.diff t
  | symDiff, s, t => s.symDiff t

/-- A set that has been read, with its nesting. -/
structure NestedSet where
  set : CharSet
  depth : Nat

/-- What has been read since an operator or a bracket: all ranges, how many items
they came from, and the deepest nesting among those. -/
structure ClassItems where
  ranges : List CodeRange
  count : Nat
  depth : Nat

namespace ClassItems

def empty : ClassItems := ⟨[], 0, 0⟩

def add (items : ClassItems) (item : NestedSet) : ClassItems :=
  ⟨item.set.ranges.toList ++ items.ranges, items.count + 1, max items.depth item.depth⟩

/-- All items as one set, which nests them once more if there are several. -/
def close (items : ClassItems) : NestedSet :=
  ⟨.ofRanges items.ranges, if 2 ≤ items.count then items.depth + 1 else items.depth⟩

end ClassItems

/-- What waits for a class to end: the part left of an operator, or what stands
before an inner bracket. -/
inductive ClassFrame where
  | operator (op : ClassOp) (left : NestedSet)
  | bracket (before : ClassItems) (negated : Bool)

/-- Combines a part with the one left of its operator, if there is one. -/
def closeOperator (f : Flags) (stack : List ClassFrame) (part : NestedSet) :
    NestedSet × List ClassFrame :=
  match stack with
  | .operator op left :: stack =>
    (⟨op.apply (f.foldSet left.set) (f.foldSet part.set), max left.depth part.depth + 1⟩, stack)
  | _ => (part, stack)

def rangeSet (f : Flags) (first last : Char) : Except Fault CharSet :=
  if last < first then .error .badClass
  else if !f.unicode && 128 ≤ last.toNat then .error .badAscii
  else .ok (.range first last)

/-- The set that an atom is in brackets; a place is none. -/
def atomSet (f : Flags) : Atom → Except Fault CharSet
  | .char c _ => rangeSet f c c
  | .set s => .ok s
  | .assert _ => .error .badClass

/-- Reads one character or escape in brackets. -/
def readClassAtom (f : Flags) (cs : List Char) : Except Fault (Atom × List Char) :=
  match cs with
  | [] => .error .badClass
  | '\\' :: rest => readEscape f rest
  | c :: rest => .ok (.char c false, rest)

/-- The character that decides what a hyphen in front of it is.  Where blanks are
ignored they are passed over, and so are one `#` and the blanks behind it; but if
nothing follows, the very next character decides. -/
def behindHyphen (f : Flags) (cs : List Char) : Option Char :=
  if f.spaced then
    let rest := match Text.trimStart cs with
      | '#' :: rest => Text.trimStart rest
      | rest => rest
    (rest ++ cs).head?
  else cs.head?

/-- Reads a character, a class or a range.  A hyphen before another one or before
the end of the class is no range. -/
def readClassItem (f : Flags) (cs : List Char) : Except Fault (CharSet × List Char) := do
  let (first, rest) ← readClassAtom f cs
  match f.skip rest with
  | [] => .error .badClass
  | '-' :: rest =>
    let decider := behindHyphen f rest
    if decider = some ']' || decider = some '-' then return (← atomSet f first, '-' :: rest)
    else
      let (last, rest) ← readClassAtom f (f.skip rest)
      match first, last with
      | .char a _, .char b _ => return (← rangeSet f a b, rest)
      | _, _ => .error .badClass
  | rest => return (← atomSet f first, rest)

/-- Reads hyphens at the beginning of a class, each of which is an item. -/
def readHyphens (f : Flags) (items : ClassItems) : Nat → List Char → ClassItems × List Char
  | fuel + 1, '-' :: cs => readHyphens f (items.add ⟨.single '-', 0⟩) fuel (f.skip cs)
  | _, cs => (items, cs)

/-- What the beginning of a class says: whether it is negated, and the characters
that would mean something else further on. -/
structure ClassStart where
  negated : Bool
  items : ClassItems

/-- Reads the beginning of a class, behind its bracket. -/
def readClassStart (f : Flags) (cs : List Char) : ClassStart × List Char :=
  let (negated, cs) := match f.skip cs with
    | '^' :: cs => (true, f.skip cs)
    | cs => (false, cs)
  let (items, cs) := readHyphens f .empty cs.length cs
  match cs with
  | ']' :: rest =>
    if items.count = 0 then (⟨negated, items.add ⟨.single ']', 0⟩⟩, f.skip rest)
    else (⟨negated, items⟩, cs)
  | _ => (⟨negated, items⟩, cs)

/-- Reads a named ASCII class, behind its bracket, and whether it is negated; nothing
if it is not one. -/
def readAsciiClass (cs : List Char) : Option (CharSet × Bool × List Char) :=
  match cs with
  | ':' :: cs =>
    let (negated, cs) := match cs with
      | '^' :: cs => (true, cs)
      | cs => (false, cs)
    let (name, rest) := cs.span fun c => c != ':'
    match rest with
    | ':' :: ']' :: rest =>
      (CharSet.ofAsciiName? (String.ofList name)).map fun set => (set, negated, rest)
    | _ => none
  | _ => none

/-- The operator that a text begins with. -/
def readClassOp : List Char → Option (ClassOp × List Char)
  | '&' :: '&' :: rest => some (.inter, rest)
  | '-' :: '-' :: rest => some (.diff, rest)
  | '~' :: '~' :: rest => some (.symDiff, rest)
  | _ => none

/-- Reads a class up to the bracket that ends it.  `items` are what has been read
since the last operator or bracket. -/
def readClassParts (f : Flags) :
    Nat → List ClassFrame → ClassItems → List Char → Except Fault (NestedSet × List Char)
  | 0, _, _, _ => .error .badClass
  | fuel + 1, stack, items, cs =>
    match f.skip cs with
    | [] => .error .badClass
    | '[' :: rest =>
      match readAsciiClass rest with
      | some (set, negated, rest) =>
        match f.negateIf negated (f.foldSet set) with
        | .error fault => .error fault
        | .ok set => readClassParts f fuel stack (items.add ⟨set, 0⟩) rest
      | none =>
        let (start, rest) := readClassStart f rest
        readClassParts f fuel (.bracket items start.negated :: stack) start.items rest
    | ']' :: rest =>
      match closeOperator f stack items.close with
      | (part, .bracket before negated :: stack) =>
        match f.negateIf negated (f.foldSet part.set) with
        | .error fault => .error fault
        | .ok set =>
          let whole : NestedSet := ⟨set, part.depth + 1⟩
          if stack.isEmpty then .ok (whole, rest)
          else readClassParts f fuel stack (before.add whole) rest
      | _ => .error .badClass
    | cs =>
      match readClassOp cs with
      | some (op, rest) =>
        let (left, stack) := closeOperator f stack items.close
        readClassParts f fuel (.operator op left :: stack) .empty rest
      | none =>
        match readClassItem f cs with
        | .error fault => .error fault
        | .ok (set, rest) => readClassParts f fuel stack (items.add ⟨set, 0⟩) rest

/-- Reads a bracketed class, behind its bracket. -/
def readBracketed (f : Flags) (cs : List Char) : Except Fault (NestedSet × List Char) :=
  let (start, rest) := readClassStart f cs
  readClassParts f (cs.length + 1) [.bracket .empty start.negated] start.items rest

end GraphPattern.Regex
