/-
YAML documents as trees.

The tokens of a text make up one document at most: a scalar, a sequence or a
mapping.  An alias is a leaf: it names the node that its anchor marks by a number,
and that node may have the alias within it.
-/
import GraphPattern.Yaml.Token

namespace GraphPattern.Yaml

/-- A node, with its tag if it has one.  A scalar that is not there at all is a plain
empty text. -/
inductive Node where
  | scalar (tag : Option Tag) (text : String) (style : Style)
  | sequence (tag : Option Tag) (items : List Node)
  | mapping (tag : Option Tag) (entries : List (Node × Node))
  | reference (mark : Nat)

namespace Node

/-- A scalar that is not there. -/
def missing : Node := scalar none "" .plain

def tag? : Node → Option Tag
  | scalar tag _ _ => tag
  | sequence tag _ => tag
  | mapping tag _ => tag
  | reference _ => none

end Node

/-- A document: its outermost node, and the nodes with anchors by their numbers. -/
structure Document where
  root : Node
  marked : List (Nat × Node)

/-- The node that a node stands for. -/
def Document.target (d : Document) (n : Node) : Node :=
  match n with
  | .reference mark =>
    match d.marked.find? fun entry => entry.1 = mark with
    | some entry => entry.2
    | none => n
  | n => n

/-- What is known while nodes are read: the tokens that are left, the numbers of the
anchors, where the latest node with each number began, the nodes that are complete, and
what tag handles stand for. -/
structure NodeReader where
  tokens : List Token
  anchors : List (List Char × Nat)
  begun : List (Nat × Nat)
  marked : List (Nat × Node)
  handles : List (List Char × List UInt8)

namespace NodeReader

def head (r : NodeReader) : Token := r.tokens.headD .streamEnd

def skip (r : NodeReader) : NodeReader := { r with tokens := r.tokens.drop 1 }

/-- Passes over a token that has to come next. -/
def expect (r : NodeReader) (t : Token) : Except Fault NodeReader :=
  if r.head = t then .ok r.skip else .error .badStructure

/-- The handles that every document knows. -/
def commonHandles : List (List Char × List UInt8) :=
  [("!".toList, (Tag.ofText "!").octets), ("!!".toList, (Tag.ofText "tag:yaml.org,2002:").octets)]

/-- The whole of a tag; its handle must be known. -/
def wholeTag (r : NodeReader) (handle : List Char) (suffix : List UInt8) : Except Fault Tag :=
  if handle.isEmpty then .ok ⟨suffix⟩
  else
    match r.handles.find? fun entry => entry.1 = handle with
    | some entry => .ok ⟨entry.2 ++ suffix⟩
    | none => .error .badTag

/-- The anchor and the tag in front of a node. -/
structure Properties where
  anchor : Option (List Char)
  tag : Option Tag

/-- Reads an anchor and a tag, each at most once, in either order. -/
def readProperties (r : NodeReader) : Except Fault (Properties × NodeReader) :=
  match r.tokens with
  | .anchor name :: .tag handle suffix :: _ => do
    return (⟨some name, some (← r.wholeTag handle suffix)⟩, r.skip.skip)
  | .tag handle suffix :: .anchor name :: _ => do
    return (⟨some name, some (← r.wholeTag handle suffix)⟩, r.skip.skip)
  | .anchor name :: _ => .ok (⟨some name, none⟩, r.skip)
  | .tag handle suffix :: _ => do return (⟨none, some (← r.wholeTag handle suffix)⟩, r.skip)
  | _ => .ok (⟨none, none⟩, r)

/-- Gives a name the number of names that are known.  A name that is given again loses
its number, and the next new name gets the same one. -/
def mark (r : NodeReader) (name : List Char) : NodeReader :=
  let number := r.anchors.length
  { r with
    anchors := (name, number) :: r.anchors.filter fun entry => entry.1 ≠ name
    begun := (number, r.tokens.length) :: r.begun }

/-- Notes that a node begins here. -/
def begin (r : NodeReader) (anchor : Option (List Char)) : NodeReader :=
  match anchor with
  | none => r
  | some name => r.mark name

/-- Keeps a node that began as `start` says under its number, unless a later node has
it. -/
def remember (r start : NodeReader) (anchor : Option (List Char)) (n : Node) : NodeReader :=
  match anchor, start.begun with
  | some _, (number, place) :: _ =>
    if r.begun.find? (fun entry => entry.1 = number) = some (number, place) then
      { r with marked := (number, n) :: r.marked }
    else r
  | _, _ => r

mutual

/-- Reads a node.  Outside of brackets, `block`, it may be an indented collection;
as the value of a key, `flat`, a sequence whose entries are not indented. -/
def readNode (block flat : Bool) : Nat → NodeReader → Except Fault (Node × NodeReader)
  | 0, _ => .error .badStructure
  | fuel + 1, r =>
    match r.head with
    | .reference name =>
      match r.anchors.find? fun entry => entry.1 = name with
      | some entry => .ok (.reference entry.2, r.skip)
      | none => .error .badAnchor
    | _ => do
      let (ps, r) ← r.readProperties
      let start := r.begin ps.anchor
      let r := start
      let (n, r) ←
        match r.head with
        | .blockEntry =>
          if flat then do
            let (items, r) ← readFlatEntries fuel r
            pure (Node.sequence ps.tag items, r)
          else readAbsent ps r
        | .scalar text style => pure (Node.scalar ps.tag (String.ofList text) style, r.skip)
        | .flowSequenceStart => do
          let (items, r) ← readFlowItems true fuel r.skip
          pure (Node.sequence ps.tag items, r)
        | .flowMappingStart => do
          let (entries, r) ← readFlowEntries true fuel r.skip
          pure (Node.mapping ps.tag entries, r)
        | .sequenceStart =>
          if block then do
            let (items, r) ← readEntries fuel r.skip
            pure (Node.sequence ps.tag items, r)
          else readAbsent ps r
        | .mappingStart =>
          if block then do
            let (entries, r) ← readPairs fuel r.skip
            pure (Node.mapping ps.tag entries, r)
          else readAbsent ps r
        | _ => readAbsent ps r
      return (n, r.remember start ps.anchor n)
where
  /-- A node of which there is nothing but an anchor or a tag. -/
  readAbsent (ps : Properties) (r : NodeReader) : Except Fault (Node × NodeReader) :=
    if ps.anchor.isSome || ps.tag.isSome then .ok (Node.scalar ps.tag "" .plain, r)
    else .error .badStructure

/-- Reads a node unless one of the tokens that would end it comes next. -/
def readUnless (ends : List Token) (block flat : Bool) :
    Nat → NodeReader → Except Fault (Node × NodeReader)
  | 0, _ => .error .badStructure
  | fuel + 1, r =>
    if r.head ∈ ends then .ok (.missing, r) else readNode block flat fuel r

/-- Reads the entries of an indented sequence. -/
def readEntries : Nat → NodeReader → Except Fault (List Node × NodeReader)
  | 0, _ => .error .badStructure
  | fuel + 1, r =>
    match r.head with
    | .blockEntry => do
      let (n, r) ← readUnless [.blockEntry, .blockEnd] true false fuel r.skip
      let (ns, r) ← readEntries fuel r
      return (n :: ns, r)
    | .blockEnd => .ok ([], r.skip)
    | _ => .error .badStructure

/-- Reads the entries of a sequence that is not indented. -/
def readFlatEntries : Nat → NodeReader → Except Fault (List Node × NodeReader)
  | 0, _ => .error .badStructure
  | fuel + 1, r =>
    match r.head with
    | .blockEntry => do
      let (n, r) ← readUnless [.blockEntry, .key, .value, .blockEnd] true false fuel r.skip
      let (ns, r) ← readFlatEntries fuel r
      return (n :: ns, r)
    | _ => .ok ([], r)

/-- Reads the keys and values of an indented mapping. -/
def readPairs : Nat → NodeReader → Except Fault (List (Node × Node) × NodeReader)
  | 0, _ => .error .badStructure
  | fuel + 1, r =>
    match r.head with
    | .key => do
      let (k, r) ← readUnless [.key, .value, .blockEnd] true true fuel r.skip
      let (v, r) ←
        if r.head = .value then readUnless [.key, .value, .blockEnd] true true fuel r.skip
        else pure (Node.missing, r)
      let (rest, r) ← readPairs fuel r
      return ((k, v) :: rest, r)
    | .blockEnd => .ok ([], r.skip)
    | _ => .error .badStructure

/-- Reads the items of a sequence in brackets; one of them may be a pair.  A pair whose
key is not there loses the token behind its mark, so `[? : b]` is no sequence. -/
def readFlowItems (first : Bool) : Nat → NodeReader → Except Fault (List Node × NodeReader)
  | 0, _ => .error .badStructure
  | fuel + 1, r =>
    if r.head = .flowSequenceEnd then .ok ([], r.skip)
    else do
      let r ← if first then pure r else r.expect .flowEntry
      if r.head = .flowSequenceEnd then return ([], r.skip)
      else if r.head = .key then
        let r := r.skip
        let (k, r) ←
          if r.head ∈ [.value, .flowEntry, .flowSequenceEnd] then pure (Node.missing, r.skip)
          else readNode false false fuel r
        let (v, r) ←
          if r.head = .value then
            readUnless [.flowEntry, .flowSequenceEnd] false false fuel r.skip
          else pure (Node.missing, r)
        let (ns, r) ← readFlowItems false fuel r
        return (Node.mapping none [(k, v)] :: ns, r)
      else
        let (n, r) ← readNode false false fuel r
        let (ns, r) ← readFlowItems false fuel r
        return (n :: ns, r)

/-- Reads the keys and values of a mapping in brackets. -/
def readFlowEntries (first : Bool) :
    Nat → NodeReader → Except Fault (List (Node × Node) × NodeReader)
  | 0, _ => .error .badStructure
  | fuel + 1, r =>
    if r.head = .flowMappingEnd then .ok ([], r.skip)
    else do
      let r ← if first then pure r else r.expect .flowEntry
      if r.head = .flowMappingEnd then return ([], r.skip)
      else if r.head = .key then
        let (k, r) ← readUnless [.value, .flowEntry, .flowMappingEnd] false false fuel r.skip
        let (v, r) ←
          if r.head = .value then
            readUnless [.flowEntry, .flowMappingEnd] false false fuel r.skip
          else pure (Node.missing, r)
        let (rest, r) ← readFlowEntries false fuel r
        return ((k, v) :: rest, r)
      else
        let (k, r) ← readNode false false fuel r
        let (rest, r) ← readFlowEntries false fuel r
        return ((k, .missing) :: rest, r)

end

/-- Reads directives in front of a document; each may be given once. -/
def readDirectives (version : Bool) (declared : List (List Char × List UInt8)) :
    List Token → Except Fault (Bool × List (List Char × List UInt8) × List Token)
  | .versionDirective :: rest =>
    if version then .error .badDirective else readDirectives true declared rest
  | .tagDirective handle lead :: rest =>
    if declared.any fun entry => entry.1 = handle then .error .badDirective
    else readDirectives version ((handle, lead) :: declared) rest
  | rest => .ok (version || !declared.isEmpty, declared, rest)

/-- Passes over marks of the end of a document. -/
def skipEnds : List Token → List Token
  | .documentEnd :: rest => skipEnds rest
  | rest => rest

/-- Reads the one document of a stream; nothing if there is none. -/
def readDocument (tokens : List Token) : Except Fault (Option Document) := do
  let (directives, declared, rest) ← readDirectives false [] tokens
  let fuel := 3 * tokens.length + 4
  let reader (tokens : List Token) : NodeReader :=
    ⟨tokens, [], [], [], declared ++ commonHandles⟩
  match rest with
  | [.streamEnd] => if directives then .error .badDocument else return none
  | _ =>
    let (n, r) ←
      match rest with
      | .documentStart :: rest =>
        readUnless [.versionDirective, .documentStart, .documentEnd, .streamEnd] true false fuel
          (reader rest)
      | _ => if directives then throw .badDocument else readNode true false fuel (reader rest)
    if skipEnds r.tokens = [.streamEnd] then return some ⟨n, r.marked⟩ else throw .badDocument

end NodeReader

/-- The document that a text writes; nothing if it writes none. -/
def document (s : String) : Except Fault (Option Document) := do
  NodeReader.readDocument (← tokens s)

end GraphPattern.Yaml
