/-
IRI references and their components.

`readHead` reads scheme, authority and path of a reference, `readTail` its query
and fragment, each from left to right; the first offence is the fault reported.
`Components.text` puts the components together again.
-/
import GraphPattern.Iri.Address

namespace GraphPattern.Iri

/-- The end of an authority or of a path segment. -/
def isSegmentEnd (c : Char) : Bool := c == '/' || c == '?' || c == '#'

def isPathEnd (c : Char) : Bool := c == '?' || c == '#'

/-- What follows a host: a colon and a number, or the end of the authority. -/
def isHostEnd (c : Char) : Bool := c == ':' || isSegmentEnd c

/-- Splits "scheme:rest".  A scheme starts with a letter. -/
def splitScheme (cs : List Char) : Option (List Char × List Char) :=
  match cs with
  | [] => none
  | c :: _ =>
    if isAsciiLetter c then
      let (scheme, rest) :=
        cs.span fun c => isAsciiAlphanumeric c || c == '+' || c == '-' || c == '.'
      match rest with
      | ':' :: rest => some (scheme, rest)
      | _ => none
    else none

/-- Reads user information up to its `@`, which is kept; none if the authority
goes on without one. -/
def readUserInfo (cs : List Char) : Except Fault (List Char × List Char) :=
  match scan (· == ':') (fun c => c == '@' || c == '[' || isSegmentEnd c) cs with
  | .ok (user, '@' :: rest) => .ok (user ++ ['@'], rest)
  | .ok _ => .ok ([], cs)
  | .error fault => .error fault

/-- Checks "v", a hexadecimal version, a dot and an address text. -/
def checkFutureAddress (cs : List Char) : Except Fault Unit :=
  let (version, rest) := (cs.drop 1).span fun c => c != '.'
  match version.find? (fun c => !isHexDigit c) with
  | some c => .error (.badHost c)
  | none =>
    let address := rest.drop 1
    if version.isEmpty then .error (.badHost (address.head?.getD ']'))
    else if address.isEmpty then .error (.badHost ']')
    else match address.find? (fun c => !(isAsciiPlain c || c == ':')) with
      | some c => .error (.badHost c)
      | none => .ok ()

/-- Checks the text between brackets. -/
def checkBracketed (cs : List Char) : Except Fault Unit :=
  match cs with
  | 'v' :: _ => checkFutureAddress cs
  | 'V' :: _ => checkFutureAddress cs
  | _ => if isAddress cs then .ok () else .error .badAddress

/-- Reads a host in brackets, which are kept. -/
def readBracketed (cs : List Char) : Except Fault (List Char × List Char) :=
  let (inner, rest) := cs.span fun c => c != ']'
  match rest with
  | [] => .error (.badHost '[')
  | _ :: rest =>
    match checkBracketed inner with
    | .error fault => .error fault
    | .ok () =>
      match rest with
      | [] => .ok ('[' :: inner ++ [']'], [])
      | c :: _ =>
        if isHostEnd c then .ok ('[' :: inner ++ [']'], rest) else .error (.badHost c)

def readHost (cs : List Char) : Except Fault (List Char × List Char) :=
  match cs with
  | '[' :: rest => readBracketed rest
  | _ => scan (fun _ => false) isHostEnd cs

/-- Reads the number behind the colon after a host; the colon is kept and there may be no
digits. -/
def readHostNumber (cs : List Char) : Except Fault (List Char × List Char) :=
  match cs with
  | ':' :: rest =>
    let (digits, rest) := rest.span isAsciiDigit
    match rest with
    | [] => .ok (':' :: digits, [])
    | c :: _ => if isSegmentEnd c then .ok (':' :: digits, rest) else .error (.badHostNumber c)
  | _ => .ok ([], cs)

/-- Reads what follows `//` up to the path. -/
def readAuthority (cs : List Char) : Except Fault (List Char × List Char) := do
  let (user, cs) ← readUserInfo cs
  let (host, cs) ← readHost cs
  let (number, cs) ← readHostNumber cs
  return (user ++ host ++ number, cs)

def readPath (cs : List Char) : Except Fault (List Char × List Char) :=
  scan (fun c => c == ':' || c == '@' || c == '/') isPathEnd cs

/-- Reads the path of a reference without a scheme: a colon in its first segment
would make it one. -/
def readRelativePath (cs : List Char) : Except Fault (List Char × List Char) := do
  let (first, cs) ← scan (· == '@') isSegmentEnd cs
  let (others, cs) ← readPath cs
  return (first ++ others, cs)

/-- Scheme, authority and path. -/
structure Head where
  scheme : Option (List Char)
  authority : Option (List Char)
  path : List Char
deriving DecidableEq, Repr

/-- Query and fragment, without their marks. -/
structure Tail where
  query : Option (List Char)
  fragment : Option (List Char)
deriving DecidableEq, Repr

/-- Reads authority and path behind the scheme, if there is one. -/
def readHierarchy (scheme : Option (List Char)) (cs : List Char) :
    Except Fault (Head × List Char) :=
  match cs with
  | '/' :: '/' :: rest => do
    let (authority, rest) ← readAuthority rest
    let (path, rest) ← readPath rest
    return (⟨scheme, some authority, path⟩, rest)
  | _ => do
    let (path, rest) ← if scheme.isSome then readPath cs else readRelativePath cs
    return (⟨scheme, none, path⟩, rest)

/-- Reads a reference up to its query. -/
def readHead (cs : List Char) : Except Fault (Head × List Char) :=
  match cs with
  | ':' :: _ => .error .noScheme
  | _ =>
    match splitScheme cs with
    | some (scheme, rest) => readHierarchy (some scheme) rest
    | none => readHierarchy none cs

/-- Reads a fragment up to the end. -/
def readFragment (cs : List Char) : Except Fault (Option (List Char)) :=
  match cs with
  | '#' :: rest => do
    let (fragment, _) ←
      scan (fun c => c == ':' || c == '@' || c == '/' || c == '?') (fun _ => false) rest
    return some fragment
  | _ => .ok none

def readTail (cs : List Char) : Except Fault Tail :=
  match cs with
  | '?' :: rest => do
    let (query, rest) ←
      scan (fun c => c == ':' || c == '@' || c == '/' || c == '?' || isPrivate c) (· == '#') rest
    return ⟨some query, ← readFragment rest⟩
  | _ => do return ⟨none, ← readFragment cs⟩

/-- An IRI reference taken apart. -/
structure Components where
  head : Head
  tail : Tail
deriving DecidableEq, Repr

/-- The text of an optional part behind its mark. -/
def marked (mark : List Char) : Option (List Char) → List Char
  | none => []
  | some cs => mark ++ cs

/-- The reference that the components make up. -/
def Components.text (r : Components) : List Char :=
  (match r.head.scheme with | none => [] | some cs => cs ++ [':']) ++
    marked ['/', '/'] r.head.authority ++ r.head.path ++
    marked ['?'] r.tail.query ++ marked ['#'] r.tail.fragment

def Components.ofReference (cs : List Char) : Except Fault Components := do
  let (head, rest) ← readHead cs
  let tail ← readTail rest
  return ⟨head, tail⟩

/-- Reads an absolute IRI: a well-formed reference that has a scheme. -/
def Components.ofAbsolute (cs : List Char) : Except Fault Components := do
  let r ← Components.ofReference cs
  if r.head.scheme.isSome then return r else .error .noScheme

end GraphPattern.Iri
