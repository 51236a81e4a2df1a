/-
The smallest parts of regular expressions: characters, escapes, flags, counts.

Each reader takes the text from where its part begins and gives back what is left
behind it.  Where blanks are ignored a comment, from `#` to the end of the line,
is a blank too.
-/
import GraphPattern.CharSet.Basic
import GraphPattern.Regex.Basic
import GraphPattern.Text
import GraphPattern.Unicode.Folding
import GraphPattern.Unicode.Property

namespace GraphPattern.Regex

/-- Why a text is no regular expression. -/
inductive Fault where
  | unknownFlag (flag : Char)
  | badEscape
  | badClass
  | badGroup
  | badFlags
  | badRepetition
  | lookAround
  | badAscii
  | tooDeep
  | tooBig
deriving DecidableEq, Repr

def Fault.message : Fault → String
  | .unknownFlag flag => "unknown flag '" ++ flag.toString ++ "'"
  | .badEscape => "bad escape"
  | .badClass => "bad character class"
  | .badGroup => "bad group"
  | .badFlags => "bad flags"
  | .badRepetition => "bad repetition"
  | .lookAround => "look-around is not supported"
  | .badAscii => "a character beyond ASCII where only ASCII is allowed"
  | .tooDeep => "too deeply nested"
  | .tooBig => "too big"

/-- How the parts that follow are read. -/
structure Flags where
  /-- Case makes no difference. -/
  foldCase : Bool
  /-- `^` and `$` stand for the ends of lines. -/
  multiLine : Bool
  /-- The dot stands for line ends too. -/
  dotAll : Bool
  /-- A carriage return ends a line as well. -/
  anyLineEnd : Bool
  /-- Classes reach beyond ASCII. -/
  unicode : Bool
  /-- Blanks and comments are ignored. -/
  spaced : Bool
  /-- Repetitions are reluctant unless they are marked. -/
  reluctant : Bool
deriving DecidableEq, Repr

def Flags.default : Flags := ⟨false, false, false, false, true, false, false⟩

/-- Skips blanks, and comments inside of which `comment` holds. -/
def skipSpace (comment : Bool) : List Char → List Char
  | [] => []
  | c :: cs =>
    if comment then skipSpace (c != '\n') cs
    else if Text.isBlank c then skipSpace false cs
    else if c == '#' then skipSpace true cs
    else c :: cs

/-- Skips blanks and comments if they are ignored. -/
def Flags.skip (f : Flags) (cs : List Char) : List Char :=
  if f.spaced then skipSpace false cs else cs

/-- What an escape or a plain character stands for. -/
inductive Atom where
  /-- A character; `byte` if it was given as one byte. -/
  | char (c : Char) (byte : Bool)
  | set (s : CharSet)
  | assert (a : Assertion)
deriving DecidableEq, Repr

def Flags.caseClasses (f : Flags) : List (List Nat) :=
  if f.unicode then Unicode.caseClasses else Unicode.asciiCaseClasses

/-- The set with all that differs from its characters in case only, where case makes no
difference. -/
def Flags.foldSet (f : Flags) (s : CharSet) : CharSet :=
  if f.foldCase then s.closeUnder f.caseClasses else s

/-- The set itself or what is not in it, which is more than ASCII. -/
def Flags.negateIf (f : Flags) (negated : Bool) (s : CharSet) : Except Fault CharSet :=
  if negated && !f.unicode then .error .badAscii else .ok (s.negateIf negated)

def hexValue? (c : Char) : Option Nat :=
  if '0' ≤ c && c ≤ '9' then some (c.toNat - 48)
  else if 'a' ≤ c && c ≤ 'f' then some (c.toNat - 87)
  else if 'A' ≤ c && c ≤ 'F' then some (c.toNat - 55)
  else none

def charOfCode? (n : Nat) : Option Char :=
  if n < 0xD800 || (0xDFFF < n && n < 0x110000) then some (Char.ofNat n) else none

/-- Reads `count` hexadecimal digits and the blanks behind each. -/
def readHexDigits (f : Flags) : (count value : Nat) → List Char → Option (Nat × List Char)
  | 0, value, cs => some (value, cs)
  | _ + 1, _, [] => none
  | count + 1, value, c :: cs =>
    match hexValue? c with
    | none => none
    | some d => readHexDigits f count (16 * value + d) (f.skip cs)

/-- Reads up to a closing brace, passing over what is ignored behind each character. -/
def readBracedText (f : Flags) : Nat → List Char → Option (List Char × List Char)
  | 0, _ => none
  | _ + 1, [] => none
  | fuel + 1, c :: cs =>
    if c == '\x7d' then some ([], cs)
    else (readBracedText f fuel (f.skip cs)).map fun r => (c :: r.1, r.2)

/-- Reads what stands in braces, behind the first. -/
def readBraced (f : Flags) (cs : List Char) : Option (List Char × List Char) :=
  readBracedText f (cs.length + 1) (f.skip cs)

/-- Reads the code of a character, behind the letter that announces it. -/
def readCode (f : Flags) (count : Nat) (cs : List Char) : Except Fault (Atom × List Char) :=
  let read :=
    match f.skip cs with
    | '\x7b' :: cs =>
      match readBraced f cs with
      | none => none
      | some (ds, rest) =>
        if ds.isEmpty || 8 < (ds.dropWhile (· == '0')).length then none
        else (readHexDigits Flags.default ds.length 0 ds).map fun r => (r.1, false, rest)
    | cs => (readHexDigits f count 0 cs).map fun r => (r.1, count == 2, r.2)
  match read with
  | none => .error .badEscape
  | some (n, byte, rest) =>
    match charOfCode? n with
    | none => .error .badEscape
    | some c => .ok (.char c byte, f.skip rest)

/-- The set that the text between the braces of `\p` stands for, and whether it is
asked for what is not in it. -/
def namedSet? (name : List Char) : Option (CharSet × Bool) :=
  let s := String.ofList name
  let valued (sign : String) (negated : Bool) :=
    match s.splitOn sign with
    | [] => none
    | [_] => none
    | first :: rest =>
      some ((Unicode.setOfValue? first (String.intercalate sign rest)).map fun set => (set, negated))
  match [valued "!=" true, valued ":" false, valued "=" false].findSome? id with
  | some found => found
  | none => (Unicode.setOfName? s).map fun set => (set, false)

/-- Reads a set given by name, behind `\p` or `\P`. -/
def readNamed (f : Flags) (negated : Bool) (cs : List Char) : Except Fault (Atom × List Char) :=
  let found :=
    match f.skip cs with
    | '\x7b' :: cs => (readBraced f cs).bind fun (name, rest) => (namedSet? name).map (·, rest)
    | c :: cs =>
      if c == '\\' then none
      else (Unicode.setOfName? c.toString).map fun set => ((set, false), f.skip cs)
    | [] => none
  match found with
  | none => .error .badEscape
  | some ((set, opposite), rest) =>
    if f.unicode then .ok (.set ((f.foldSet set).negateIf (negated != opposite)), rest)
    else .error .badAscii

/-- The set that a letter behind a backslash stands for, and whether it stands for
what is not in it, as the capital letters do. -/
def letterSet? (f : Flags) (c : Char) : Option (CharSet × Bool) :=
  let pick (wide : CharSet) (narrow : String) (capital : Char) :=
    some (if f.unicode then wide else .ascii narrow, c == capital)
  if c == 'd' || c == 'D' then pick Unicode.digitSet "digit" 'D'
  else if c == 's' || c == 'S' then pick Unicode.blankSet "space" 'S'
  else if c == 'w' || c == 'W' then pick Unicode.wordSet "word" 'W'
  else none

/-- The characters that have a meaning of their own. -/
def isMeta (c : Char) : Bool := c ∈ "\\.+*?()|[]\x7b\x7d^$#&-~".toList

/-- The characters that stand for themselves behind a backslash. -/
def isEscapable (c : Char) : Bool :=
  isMeta c || (c.toNat < 128 && !c.isAlphanum && c != '<' && c != '>')

/-- The characters with a letter of their own behind a backslash. -/
def controlLetter? (c : Char) : Option Char :=
  if c == 'a' then some '\x07'
  else if c == 'f' then some '\x0c'
  else if c == 't' then some '\t'
  else if c == 'n' then some '\n'
  else if c == 'r' then some '\r'
  else if c == 'v' then some '\x0b'
  else none

/-- What may stand in the name of a word boundary. -/
def isBoundaryLetter (c : Char) : Bool := c.isAlpha || c == '-'

/-- Reads letters of a name and the blanks behind each. -/
def readBoundaryName (f : Flags) : Nat → List Char → List Char × List Char
  | 0, cs => ([], cs)
  | _ + 1, [] => ([], [])
  | fuel + 1, c :: cs =>
    if isBoundaryLetter c then
      let (name, rest) := readBoundaryName f fuel (f.skip cs)
      (c :: name, rest)
    else ([], c :: cs)

/-- Reads what may follow `\b`: the name of a kind of boundary in braces.  A brace
that opens a count is left alone. -/
def readBoundary (f : Flags) (cs : List Char) : Except Fault (Atom × List Char) :=
  let ascii := !f.unicode
  match cs with
  | '\x7b' :: inner =>
    match f.skip inner with
    | [] => .error .badEscape
    | c :: inner =>
      if isBoundaryLetter c then
        let (name, rest) := readBoundaryName f (inner.length + 1) (c :: inner)
        match rest with
        | '\x7d' :: rest =>
          let name := String.ofList name
          if name = "start" then .ok (.assert (.wordStart ascii), rest)
          else if name = "end" then .ok (.assert (.wordEnd ascii), rest)
          else if name = "start-half" then .ok (.assert (.wordStartHalf ascii), rest)
          else if name = "end-half" then .ok (.assert (.wordEndHalf ascii), rest)
          else .error .badEscape
        | _ => .error .badEscape
      else .ok (.assert (.wordBoundary ascii), cs)
  | _ => .ok (.assert (.wordBoundary ascii), cs)

/-- Reads an escape, behind its backslash. -/
def readEscape (f : Flags) (cs : List Char) : Except Fault (Atom × List Char) :=
  match cs with
  | [] => .error .badEscape
  | c :: rest =>
    if c == 'x' then readCode f 2 rest
    else if c == 'u' then readCode f 4 rest
    else if c == 'U' then readCode f 8 rest
    else if c == 'p' then readNamed f false rest
    else if c == 'P' then readNamed f true rest
    else if c == 'b' then readBoundary f rest
    else
      match letterSet? f c, controlLetter? c with
      | some (set, negated), _ => do return (.set (← f.negateIf negated set), rest)
      | none, some d => .ok (.char d false, rest)
      | none, none =>
        if isEscapable c then .ok (.char c false, rest)
        else if c == 'A' then .ok (.assert .textStart, rest)
        else if c == 'z' then .ok (.assert .textEnd, rest)
        else if c == 'B' then .ok (.assert (.noWordBoundary !f.unicode), rest)
        else if c == '<' then .ok (.assert (.wordStart !f.unicode), rest)
        else if c == '>' then .ok (.assert (.wordEnd !f.unicode), rest)
        else .error .badEscape

def Flags.set? (f : Flags) (letter : Char) (on : Bool) : Option Flags :=
  if letter == 'i' then some { f with foldCase := on }
  else if letter == 'm' then some { f with multiLine := on }
  else if letter == 's' then some { f with dotAll := on }
  else if letter == 'R' then some { f with anyLineEnd := on }
  else if letter == 'u' then some { f with unicode := on }
  else if letter == 'x' then some { f with spaced := on }
  else if letter == 'U' then some { f with reluctant := on }
  else none

/-- Reads the letters of a flag group up to `:` or `)`.  `seen` are the signs read
so far, the latest first; each may stand once, and a hyphen not last. -/
def readFlags (f : Flags) (seen : List Char) :
    List Char → Except Fault (Flags × List Char × List Char)
  | [] => .error .badFlags
  | c :: cs =>
    if c == ':' || c == ')' then
      if seen.head? = some '-' then .error .badFlags else .ok (f, seen, c :: cs)
    else if c ∈ seen then .error .badFlags
    else if c == '-' then readFlags f ('-' :: seen) cs
    else
      match f.set? c ('-' ∉ seen) with
      | none => .error .badFlags
      | some f => readFlags f (c :: seen) cs

/-- Reads decimal digits and the blanks behind each. -/
def readCountDigits (f : Flags) : Nat → List Char → List Char × List Char
  | 0, cs => ([], cs)
  | _ + 1, [] => ([], [])
  | fuel + 1, c :: cs =>
    if c.isDigit then
      let (ds, rest) := readCountDigits f fuel (f.skip cs)
      (c :: ds, rest)
    else ([], c :: cs)

/-- Reads a number below `2 ^ 32` with blanks around it. -/
def readCount (f : Flags) (cs : List Char) : Option (Nat × List Char) :=
  let cs := Text.trimStart cs
  let (ds, rest) := readCountDigits f cs.length cs
  let n := Nat.ofDigitChars 10 ds 0
  if ds.isEmpty || Nat.pow 2 32 ≤ n then none
  else some (n, f.skip (Text.trimStart rest))

/-- Reads the bounds of a repetition, behind its opening brace. -/
def readBounds (f : Flags) (cs : List Char) :
    Except Fault (Nat × Option Nat × List Char) :=
  match readCount f (f.skip cs) with
  | none => .error .badRepetition
  | some (least, '\x7d' :: rest) => .ok (least, some least, rest)
  | some (least, ',' :: rest) =>
    match f.skip rest with
    | '\x7d' :: rest => .ok (least, none, rest)
    | rest =>
      match readCount f rest with
      | some (most, '\x7d' :: rest) =>
        if least ≤ most then .ok (least, some most, rest) else .error .badRepetition
      | _ => .error .badRepetition
  | some _ => .error .badRepetition

end GraphPattern.Regex
