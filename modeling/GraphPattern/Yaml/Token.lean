/-
Tokens of YAML texts.

Indentation opens and closes collections outside of brackets, and a colon makes a
key of what stands before it on its line.  So the reader keeps the columns of the
open collections and the places where a key may have begun; when the colon comes,
the tokens of the key are put in there.
-/
import GraphPattern.Yaml.Scalar

namespace GraphPattern.Yaml

/-- A tag.  Escapes may write any octets. -/
structure Tag where
  octets : List UInt8
deriving DecidableEq, Repr

namespace Tag

def ofText (s : String) : Tag := ⟨s.toUTF8.toList⟩

def text? (t : Tag) : Option String := String.fromUTF8? ⟨t.octets.toArray⟩

end Tag

/-- A token. -/
inductive Token where
  | versionDirective
  | tagDirective (handle : List Char) (lead : List UInt8)
  | documentStart | documentEnd
  | sequenceStart | mappingStart | blockEnd
  | flowSequenceStart | flowSequenceEnd
  | flowMappingStart | flowMappingEnd
  | blockEntry | flowEntry
  | key | value
  | reference (name : List Char)
  | anchor (name : List Char)
  | tag (handle : List Char) (suffix : List UInt8)
  | scalar (text : List Char) (style : Style)
  | streamEnd
deriving DecidableEq, Repr

/-- A place where a key may have begun: the number of its first token, and whether
nothing but a key can stand there. -/
structure KeyStart where
  required : Bool
  token : Nat
  place : Place

/-- How far a text has been read. -/
structure Reader where
  place : Place
  tokens : List Token
  /-- The column of the innermost collection without brackets, or minus one. -/
  indent : Int
  outer : List Int
  /-- Whether a key may begin here. -/
  keyAllowed : Bool
  /-- Where keys may have begun, one entry for each level of brackets and one for
  what stands outside of them. -/
  keys : List (Option KeyStart)

namespace Reader

def start (s : String) : Reader := ⟨.start s, [], -1, [], true, [none]⟩

def inFlow (r : Reader) : Bool := 1 < r.keys.length

def add (r : Reader) (t : Token) : Reader := { r with tokens := r.tokens ++ [t] }

def insert (r : Reader) (n : Nat) (t : Token) : Reader :=
  { r with tokens := r.tokens.take n ++ t :: r.tokens.drop n }

def skip (r : Reader) (n : Nat) : Reader := { r with place := r.place.skip n }

/-- Says whether a key may begin next. -/
def allowKey (r : Reader) (allowed : Bool) : Reader := { r with keyAllowed := allowed }

/-- Forgets where a key may have begun; a required one is missing its colon. -/
def dropKey (r : Reader) : Except Fault Reader :=
  match r.keys with
  | some k :: rest => if k.required then .error .badKey else .ok { r with keys := none :: rest }
  | _ => .ok r

def saveKey (r : Reader) : Except Fault Reader := do
  if r.keyAllowed then
    let required := !r.inFlow && r.indent == (r.place.column : Int)
    let r ← r.dropKey
    return { r with keys := some ⟨required, r.tokens.length, r.place⟩ :: r.keys.drop 1 }
  else return r

/-- Whether a key that began at `k` can still have its colon here. -/
def isStale (r : Reader) (k : KeyStart) : Bool :=
  k.place.line < r.place.line || k.place.offset + 1024 < r.place.offset

/-- Forgets keys that are too far back. -/
def dropStale (r : Reader) : Except Fault Reader := do
  let keys ← r.keys.mapM fun key =>
    match key with
    | none => .ok none
    | some k =>
      if r.isStale k then (if k.required then .error .badKey else .ok none) else .ok (some k)
  return { r with keys := keys }

/-- Opens a collection at a column right of the innermost one. -/
def indentTo (r : Reader) (column : Nat) (token : Nat) (t : Token) : Reader :=
  if !r.inFlow && r.indent < (column : Int) then
    { r.insert token t with indent := column, outer := r.indent :: r.outer }
  else r

/-- The collections that are left when all those right of a column are closed. -/
def closeIndents (column : Int) : Nat → Int → List Int → Nat × Int × List Int
  | closed, indent, [] => (closed, indent, [])
  | closed, indent, outer :: rest =>
    if column < indent then closeIndents column (closed + 1) outer rest
    else (closed, indent, outer :: rest)

/-- Closes the collections right of a column. -/
def dedentTo (r : Reader) (column : Int) : Reader :=
  if r.inFlow then r
  else
    let (closed, indent, outer) := closeIndents column 0 r.indent r.outer
    { r with
      tokens := r.tokens ++ List.replicate closed .blockEnd
      indent := indent
      outer := outer }

/-- Passes over blanks, comments and line ends.  A tab may stand where no key can
begin. -/
def skipSpace : Nat → Reader → Reader
  | 0, r => r
  | fuel + 1, r =>
    let p := r.place.skipOrderMark.skipWhile fun c =>
      c == ' ' || (c == '\t' && (r.inFlow || !r.keyAllowed))
    let p := if p.at? '#' then p.skipLine else p
    if (p.peek 0).any isBreak then
      skipSpace fuel { r with place := p.readBreak.2, keyAllowed := r.keyAllowed || !r.inFlow }
    else { r with place := p }

/-- What a name may be made of. -/
def isNameChar (c : Char) : Bool := c.isAlphanum || c == '_' || c == '-'

def readName (p : Place) : Except Fault (List Char × Place) :=
  let name := p.rest.takeWhile isNameChar
  let p := p.skip name.length
  let ends := endsWord (p.peek 0) || (p.peek 0).any fun c =>
    c ∈ ['?', ':', ',', ']', '\x7d', '%', '@', '\x60']
  if name.isEmpty || !ends then .error .badAnchor else .ok (name, p)

/-- What a tag may be made of, besides escapes. -/
def isTagChar (c : Char) : Bool :=
  isNameChar c || c ∈ [';', '/', '?', ':', '@', '&', '=', '+', '$', '.', '~', '*', '\x27', '(', ')',
    '!', ',', '[', ']']

/-- Reads an octet that is written as a percent sign and two digits. -/
def readOctet? (p : Place) : Option (Nat × Place) :=
  match p.rest with
  | '%' :: a :: b :: _ => do
    let high ← hexValue? a
    let low ← hexValue? b
    return (16 * high + low, p.skip 3)
  | _ => none

/-- How many octets follow the first one of a character, which is given. -/
def furtherOctets? (first : Nat) : Option Nat :=
  if first < 0x80 then some 0
  else if first < 0xC0 then none
  else if first < 0xE0 then some 1
  else if first < 0xF0 then some 2
  else if first < 0xF8 then some 3
  else none

/-- Reads the further octets of a character. -/
def readFurther? : Nat → Place → Option (List UInt8 × Place)
  | 0, p => some ([], p)
  | n + 1, p => do
    let (octet, p) ← readOctet? p
    if octet < 0x80 || 0xC0 ≤ octet then none
    else
      let (more, p) ← readFurther? n p
      return (octet.toUInt8 :: more, p)

/-- Reads the octets of one escaped character. -/
def readEscaped? (p : Place) : Option (List UInt8 × Place) := do
  let (first, p) ← readOctet? p
  let (more, p) ← readFurther? (← furtherOctets? first) p
  return (first.toUInt8 :: more, p)

/-- Reads characters of a tag; `verbatim` takes in those that may end it in brackets. -/
def readTagText (verbatim : Bool) :
    Nat → List UInt8 → Place → Except Fault (List UInt8 × Place)
  | 0, read, p => .ok (read, p)
  | fuel + 1, read, p =>
    match p.peek 0 with
    | none => .ok (read, p)
    | some c =>
      if c == '%' then
        match readEscaped? p with
        | some (octets, p) => readTagText verbatim fuel (read ++ octets) p
        | none => .error .badTag
      else if isTagChar c && (verbatim || !(c == ',' || c == '[' || c == ']')) then
        readTagText verbatim fuel (read ++ [c.toNat.toUInt8]) (p.skip 1)
      else .ok (read, p)

/-- What counts of a tag: a zero octet ends it. -/
def beforeZero (octets : List UInt8) : List UInt8 := octets.takeWhile (· != 0)

/-- Reads a tag. -/
def readTag (flow : Bool) (p : Place) : Except Fault (Token × Place) := do
  let fuel := p.rest.length
  let (token, p) ←
    if p.peek 1 == some '<' then do
      let (octets, p) ← readTagText true fuel [] (p.skip 2)
      if octets.isEmpty || !p.at? '>' then throw .badTag
      pure (Token.tag [] (beforeZero octets), p.skip 1)
    else do
      let name := (p.rest.drop 1).takeWhile isNameChar
      let handle := '!' :: name
      let q := p.skip handle.length
      if q.at? '!' then
        let (octets, q) ← readTagText false fuel [] (q.skip 1)
        if octets.isEmpty then throw .badTag
        pure (Token.tag (handle ++ ['!']) (beforeZero octets), q)
      else
        let (octets, q) ← readTagText false fuel [] (p.skip 1)
        let octets := beforeZero octets
        if octets.isEmpty then pure (Token.tag [] (Tag.ofText "!").octets, q)
        else pure (Token.tag ['!'] octets, q)
  if endsWord (p.peek 0) || (flow && p.at? ',') then return (token, p) else throw .badTag

/-- Reads a number of a version. -/
def readVersionNumber (p : Place) : Except Fault (Nat × Place) :=
  let ds := p.rest.takeWhile Char.isDigit
  if ds.isEmpty || 9 < ds.length then .error .badDirective
  else .ok (Nat.ofDigitChars 10 ds 0, p.skip ds.length)

/-- Reads a directive, which takes the rest of its line. -/
def readDirective (p : Place) : Except Fault (Token × Place) := do
  let name := (p.rest.drop 1).takeWhile isNameChar
  let p := p.skip (name.length + 1)
  if name.isEmpty || !endsWord (p.peek 0) then throw .badDirective
  let p := p.skipWhile isBlank
  let (token, p) ←
    if name = "YAML".toList then do
      let (major, p) ← readVersionNumber p
      if !p.at? '.' then throw .badDirective
      let (minor, p) ← readVersionNumber (p.skip 1)
      if major = 1 && (minor = 1 || minor = 2) then pure (Token.versionDirective, p)
      else throw .badDirective
    else if name = "TAG".toList then do
      let inner := (p.rest.drop 1).takeWhile isNameChar
      let handle := '!' :: inner
      let closed := (p.peek handle.length) == some '!'
      if !p.at? '!' || (!closed && !inner.isEmpty) then throw .badDirective
      let handle := if closed then handle ++ ['!'] else handle
      let p := p.skip handle.length
      if !(p.peek 0).any isBlank then throw .badDirective
      let p := p.skipWhile isBlank
      let (lead, p) ← readTagText true p.rest.length [] p
      if lead.isEmpty || !endsWord (p.peek 0) then throw .badDirective
      pure (Token.tagDirective handle (beforeZero lead), p)
    else throw .badDirective
  let p := p.skipWhile isBlank
  let p := if p.at? '#' then p.skipLine else p
  if endsLine (p.peek 0) then return (token, p.readBreak.2) else throw .badDirective

/-- Adds the token of a collection in brackets that begins here. -/
def openFlow (r : Reader) (t : Token) : Except Fault Reader := do
  let r ← r.saveKey
  return ({ r with keys := none :: r.keys, keyAllowed := true }.skip 1).add t

/-- Adds the token of a collection in brackets that ends here. -/
def closeFlow (r : Reader) (t : Token) : Except Fault Reader := do
  let r ← r.dropKey
  let keys := if r.inFlow then r.keys.drop 1 else r.keys
  return ({ r with keys := keys, keyAllowed := false }.skip 1).add t

/-- Adds a mark that stands where a key could begin and opens a collection if need
be. -/
def blockMark (r : Reader) (collection mark : Token) (keyAfter : Bool) : Except Fault Reader := do
  let r ←
    if r.inFlow then pure r
    else if !r.keyAllowed then throw .badKey
    else pure (r.indentTo r.place.column r.tokens.length collection)
  let r ← r.dropKey
  return ((r.allowKey keyAfter).skip 1).add mark

/-- Adds the token of a value: what stands before the colon becomes its key. -/
def valueMark (r : Reader) : Except Fault Reader :=
  match r.keys with
  | some k :: rest =>
    let r := r.insert k.token .key
    let r := { r with keys := none :: rest }.indentTo k.place.column k.token .mappingStart
    .ok (((r.allowKey false).skip 1).add .value)
  | _ =>
    if r.inFlow then .ok (((r.allowKey false).skip 1).add .value)
    else if !r.keyAllowed then .error .badKey
    else
      .ok (((r.indentTo r.place.column r.tokens.length .mappingStart).skip 1).add .value)

/-- Adds a token that a key may begin with. -/
def addKeyed (r : Reader) (read : Place → Except Fault (Token × Place)) : Except Fault Reader := do
  let r ← r.saveKey
  let (t, p) ← read r.place
  return { (r.allowKey false).add t with place := p }

/-- Adds a plain scalar. -/
def addPlain (r : Reader) : Except Fault Reader := do
  let r ← r.saveKey
  let read ← readPlain r.inFlow (r.indent + 1).toNat (r.place.rest.length + 1) [] .none r.place
  return { (r.allowKey read.broken).add (.scalar read.text .plain) with place := read.place }

/-- Whether a plain scalar can begin here. -/
def plainStarts (r : Reader) (c : Char) : Bool :=
  let next := r.place.peek 1
  let sign := c ∈ ['-', '?', ':', ',', '[', ']', '\x7b', '\x7d', '#', '&', '*', '!', '|', '>',
    '\x27', '"', '%', '@', '\x60']
  (!isBlank c && !isBreak c && !sign) || (c == '-' && !next.any isBlank) ||
    (!r.inFlow && (c == '?' || c == ':') && !endsWord next)

/-- Adds the mark of a document's beginning or end. -/
def documentMark (r : Reader) (t : Token) : Except Fault Reader := do
  let r ← (r.dedentTo (-1)).dropKey
  return ((r.allowKey false).skip 3).add t

/-- Adds the token that begins with `c`. -/
def readToken (r : Reader) (c : Char) : Except Fault Reader :=
  let next := r.place.peek 1
  if r.place.column == 0 && c == '%' then do
    let r ← (r.dedentTo (-1)).dropKey
    let (t, p) ← readDirective r.place
    return { (r.allowKey false).add t with place := p }
  else if r.place.atMark '-' then r.documentMark .documentStart
  else if r.place.atMark '.' then r.documentMark .documentEnd
  else if c == '[' then r.openFlow .flowSequenceStart
  else if c == '\x7b' then r.openFlow .flowMappingStart
  else if c == ']' then r.closeFlow .flowSequenceEnd
  else if c == '\x7d' then r.closeFlow .flowMappingEnd
  else if c == ',' then do
    let r ← r.dropKey
    return ((r.allowKey true).skip 1).add .flowEntry
  else if c == '-' && endsWord next then r.blockMark .sequenceStart .blockEntry true
  else if c == '?' && (r.inFlow || endsWord next) then r.blockMark .mappingStart .key !r.inFlow
  else if c == ':' && (r.inFlow || endsWord next) then r.valueMark
  else if c == '*' then r.addKeyed fun p => do
    let (name, p) ← readName (p.skip 1)
    return (.reference name, p)
  else if c == '&' then r.addKeyed fun p => do
    let (name, p) ← readName (p.skip 1)
    return (.anchor name, p)
  else if c == '!' then r.addKeyed (readTag r.inFlow)
  else if (c == '|' || c == '>') && !r.inFlow then do
    let r ← r.dropKey
    let (text, p) ← readBlock (c == '>') r.indent (r.place.skip 1)
    let t := Token.scalar text (if c == '>' then .folded else .literal)
    return { (r.allowKey true).add t with place := p }
  else if c == '\x27' || c == '"' then r.addKeyed fun p => do
    let (text, p) ← readQuoted (c == '\x27') (p.rest.length + 1) [] (p.skip 1)
    return (.scalar text .quoted, p)
  else if r.plainStarts c then r.addPlain
  else .error .badCharacter

/-- Adds all tokens that are left. -/
def readAll : Nat → Reader → Except Fault Reader
  | 0, _ => .error .badStructure
  | fuel + 1, r => do
    let r ← (r.skipSpace (r.place.rest.length + 1)).dropStale
    let r := r.dedentTo r.place.column
    match r.place.peek 0 with
    | none =>
      let r ← (r.dedentTo (-1)).dropKey
      return r.add .streamEnd
    | some c => readAll fuel (← r.readToken c)

end Reader

/-- The tokens of a text. -/
def tokens (s : String) : Except Fault (List Token) :=
  if s.toList.any fun c => !isAllowed c then .error .badCharacter
  else do
    let r ← (Reader.start s).readAll (s.toList.length + 2)
    return r.tokens

end GraphPattern.Yaml
