/-
Scalars: plain texts, texts in quotes, and indented blocks of text.

Line ends inside a scalar are folded: one alone becomes a blank, and of several
the first goes.  Literal blocks keep them all.
-/
import GraphPattern.Yaml.Place

namespace GraphPattern.Yaml

/-- How a scalar is written. -/
inductive Style where
  | plain
  | quoted
  | literal
  | folded
deriving DecidableEq, Repr

/-- Blanks and line ends between two words: the blanks before the first line end,
that line end, and those after it. -/
structure Gap where
  blanks : List Char
  first : List Char
  more : List Char
  broken : Bool

namespace Gap

def none : Gap := ⟨[], [], [], false⟩

/-- What a gap contributes to the text. -/
def text (g : Gap) : List Char :=
  if g.broken then
    if g.first.head? = some '\n' then
      if g.more.isEmpty then [' '] else g.more
    else g.first ++ g.more
  else g.blanks

end Gap

/-- Reads blanks and line ends; a tab left of column `indent` is refused. -/
def readGap (indent : Nat) : Nat → Gap → Place → Except Fault (Gap × Place)
  | 0, g, p => .ok (g, p)
  | fuel + 1, g, p =>
    match p.peek 0 with
    | none => .ok (g, p)
    | some c =>
      if isBlank c then
        if g.broken && p.column < indent && c == '\t' then .error .badIndentation
        else
          readGap indent fuel (if g.broken then g else { g with blanks := g.blanks ++ [c] })
            (p.skip 1)
      else if isBreak c then
        let (b, p) := p.readBreak
        readGap indent fuel
          (if g.broken then { g with more := g.more ++ b }
            else { g with blanks := [], first := b, broken := true }) p
      else .ok (g, p)

/-- The brackets and commas that end a plain scalar within brackets. -/
def isFlowSign (c : Char) : Bool := c == ',' || c == '[' || c == ']' || c == '\x7b' || c == '\x7d'

/-- Whether the second of two characters within brackets makes a colon stand
wrongly. -/
def isBadAfterColon (c : Option Char) : Bool :=
  match c with
  | none => false
  | some c => isFlowSign c || c == '?'

/-- Reads a word of a plain scalar. -/
def readWord (flow : Bool) : Nat → List Char → Place → Except Fault (List Char × Place)
  | 0, read, p => .ok (read.reverse, p)
  | fuel + 1, read, p =>
    match p.peek 0 with
    | none => .ok (read.reverse, p)
    | some c =>
      if isBlank c || isBreak c then .ok (read.reverse, p)
      else if flow && c == ':' && isBadAfterColon (p.peek 1) then .error .badScalar
      else if (c == ':' && endsWord (p.peek 1)) || (flow && isFlowSign c) then
        .ok (read.reverse, p)
      else readWord flow fuel (c :: read) (p.skip 1)

/-- A scalar that has been read, the place behind it, and whether a line ended
last. -/
structure ScalarRead where
  text : List Char
  place : Place
  broken : Bool

/-- Reads the words of a plain scalar whose lines begin at column `indent` or
further on; `gap` stands before the next word. -/
def readPlain (flow : Bool) (indent : Nat) :
    Nat → List Char → Gap → Place → Except Fault ScalarRead
  | 0, text, gap, p => .ok ⟨text, p, gap.broken⟩
  | fuel + 1, text, gap, p => do
    if p.atAnyMark || p.at? '#' then return ⟨text, p, gap.broken⟩
    else
      let (word, p) ← readWord flow p.rest.length [] p
      let text := if word.isEmpty then text else text ++ gap.text ++ word
      let gap := if word.isEmpty then gap else .none
      match p.peek 0 with
      | none => return ⟨text, p, gap.broken⟩
      | some c =>
        if isBlank c || isBreak c then
          let (gap, p) ← readGap indent (p.rest.length + 1) gap p
          if !flow && p.column < indent then return ⟨text, p, gap.broken⟩
          else readPlain flow indent fuel text gap p
        else return ⟨text, p, gap.broken⟩

def hexValue? (c : Char) : Option Nat :=
  if '0' ≤ c && c ≤ '9' then some (c.toNat - 48)
  else if 'a' ≤ c && c ≤ 'f' then some (c.toNat - 87)
  else if 'A' ≤ c && c ≤ 'F' then some (c.toNat - 55)
  else none

/-- The value of a run of hexadecimal digits. -/
def hexNumber? (cs : List Char) : Option Nat :=
  cs.foldlM (fun n c => (hexValue? c).map fun d => 16 * n + d) 0

/-- What a letter behind a backslash stands for. -/
def escapedChar? (c : Char) : Option Char :=
  if c == '0' then some '\x00'
  else if c == 'a' then some '\x07'
  else if c == 'b' then some '\x08'
  else if c == 't' || c == '\t' then some '\t'
  else if c == 'n' then some '\n'
  else if c == 'v' then some '\x0b'
  else if c == 'f' then some '\x0c'
  else if c == 'r' then some '\r'
  else if c == 'e' then some '\x1b'
  else if c == ' ' || c == '"' || c == '/' || c == '\\' then some c
  else if c == 'N' then some (Char.ofNat 0x85)
  else if c == '_' then some (Char.ofNat 0xA0)
  else if c == 'L' then some (Char.ofNat 0x2028)
  else if c == 'P' then some (Char.ofNat 0x2029)
  else none

def readEscape (p : Place) : Except Fault (Char × Place) :=
  let code (count : Nat) : Except Fault (Char × Place) :=
    let digits := (p.rest.drop 1).take count
    match if digits.length = count then hexNumber? digits else none with
    | none => .error .badScalar
    | some n =>
      if n < 0xD800 || (0xDFFF < n && n < 0x110000) then .ok (Char.ofNat n, p.skip (count + 1))
      else .error .badScalar
  match p.peek 0 with
  | none => .error .badScalar
  | some c =>
    if c == 'x' then code 2
    else if c == 'u' then code 4
    else if c == 'U' then code 8
    else
      match escapedChar? c with
      | some d => .ok (d, p.skip 1)
      | none => .error .badScalar

/-- Reads a word in quotes.  The last part tells whether it ended in a backslash
that hides a line end. -/
def readQuotedWord (single : Bool) :
    Nat → List Char → Place → Except Fault (List Char × Place × Bool)
  | 0, _, _ => .error .badScalar
  | fuel + 1, read, p =>
    match p.peek 0 with
    | none => .ok (read.reverse, p, false)
    | some c =>
      if isBlank c || isBreak c then .ok (read.reverse, p, false)
      else if single && c == '\x27' && p.peek 1 == some '\x27' then
        readQuotedWord single fuel (c :: read) (p.skip 2)
      else if c == (if single then '\x27' else '"') then .ok (read.reverse, p, false)
      else if !single && c == '\\' then
        if (p.peek 1).any isBreak then .ok (read.reverse, (p.skip 1).readBreak.2, true)
        else
          match readEscape (p.skip 1) with
          | .error fault => .error fault
          | .ok (d, p) => readQuotedWord single fuel (d :: read) p
      else readQuotedWord single fuel (c :: read) (p.skip 1)

/-- Reads a scalar in quotes, behind the first. -/
def readQuoted (single : Bool) : Nat → List Char → Place → Except Fault (List Char × Place)
  | 0, _, _ => .error .badScalar
  | fuel + 1, text, p => do
    if p.atAnyMark || p.rest.isEmpty then .error .badScalar
    else
      let (word, p, hidden) ← readQuotedWord single (p.rest.length + 1) [] p
      let text := text ++ word
      if !hidden && p.at? (if single then '\x27' else '"') then return (text, p.skip 1)
      else
        let (gap, p) ← readGap 0 (p.rest.length + 1) { Gap.none with broken := hidden } p
        readQuoted single fuel (text ++ gap.text) p

/-- How many line ends the end of a block keeps. -/
inductive Chomp where
  | strip
  | clip
  | keep
deriving DecidableEq, Repr

/-- Reads the signs behind the mark of a block: its indentation and what becomes of
the line ends at its end, in either order. -/
def readBlockSigns (p : Place) : Except Fault (Chomp × Nat × Place) :=
  let chomp (p : Place) : Option Chomp × Place :=
    if p.at? '+' then (some .keep, p.skip 1)
    else if p.at? '-' then (some .strip, p.skip 1)
    else (none, p)
  let digit (p : Place) : Option Nat × Place :=
    match p.peek 0 with
    | some c => if '0' ≤ c && c ≤ '9' then (some (c.toNat - 48), p.skip 1) else (none, p)
    | none => (none, p)
  let (before, p) := chomp p
  let (indent, p) := digit p
  let (after, p) := if before.isNone && indent.isSome then chomp p else (none, p)
  if indent = some 0 then .error .badScalar
  else .ok ((before.or after).getD .clip, indent.getD 0, p)

/-- Reads empty lines of a block and the indentation behind them.  While `indent`
is zero the indentation is not known; `widest` is the widest one seen. -/
def readBlockBreaks (indent : Nat) :
    Nat → Nat → List Char → Place → Except Fault (Nat × List Char × Place)
  | 0, widest, breaks, p => .ok (widest, breaks, p)
  | fuel + 1, widest, breaks, p =>
    let blanks := (p.rest.takeWhile (· == ' ')).length
    let p := p.skip (if indent = 0 then blanks else min blanks (indent - p.column))
    let widest := max widest p.column
    if (indent = 0 || p.column < indent) && p.at? '\t' then .error .badIndentation
    else if (p.peek 0).any isBreak then
      let (b, p) := p.readBreak
      readBlockBreaks indent fuel widest (breaks ++ b) p
    else .ok (widest, breaks, p)

/-- What has been read of a block: its text, the end of its last line, the empty
lines behind it, and whether that line began with a blank. -/
structure BlockRead where
  text : List Char
  lineEnd : List Char
  breaks : List Char
  leadingBlank : Bool
  place : Place

/-- Reads the lines of a block at column `indent`. -/
def readBlockLines (folded : Bool) (indent : Nat) : Nat → BlockRead → Except Fault BlockRead
  | 0, r => .ok r
  | fuel + 1, r => do
    let p := r.place
    if p.column != indent || p.rest.isEmpty then return r
    else
      let blank := (p.peek 0).any isBlank
      let before :=
        if folded && r.lineEnd.head? == some '\n' && !r.leadingBlank && !blank then
          if r.breaks.isEmpty then [' '] else []
        else r.lineEnd
      let line := p.rest.takeWhile fun c => !isBreak c
      let (lineEnd, next) := (p.skip line.length).readBreak
      let (_, breaks, next) ← readBlockBreaks indent (next.rest.length + 1) 0 [] next
      readBlockLines folded indent fuel
        ⟨r.text ++ before ++ r.breaks ++ line, lineEnd, breaks, blank, next⟩

/-- Reads a block scalar behind its mark; `parent` is the indentation of what it
stands in, minus one if it stands in nothing. -/
def readBlock (folded : Bool) (parent : Int) (p : Place) : Except Fault (List Char × Place) := do
  let (chomp, increment, p) ← readBlockSigns p
  let p := p.skipWhile isBlank
  let p := if p.at? '#' then p.skipLine else p
  if !endsLine (p.peek 0) then .error .badScalar
  else
    let p := p.readBreak.2
    let given := if increment = 0 then 0 else (max parent 0).toNat + increment
    let (widest, breaks, p) ← readBlockBreaks given (p.rest.length + 1) 0 [] p
    let indent := if given = 0 then max (max widest (parent + 1).toNat) 1 else given
    let r ← readBlockLines folded indent (p.rest.length + 1) ⟨[], [], breaks, false, p⟩
    let text := match chomp with
      | .strip => r.text
      | .clip => r.text ++ r.lineEnd
      | .keep => r.text ++ r.lineEnd ++ r.breaks
    return (text, r.place)

end GraphPattern.Yaml
