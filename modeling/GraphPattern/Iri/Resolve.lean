/-
Relative references and their meaning under a base.

A relative path is read segment by segment onto the part of the base path before
its last segment: `.` adds nothing and `..` takes the last segment away.  Without
an authority a path that starts with two slashes would read as one; the path is
looked at after each `.` and `..` and at its end, before what follows is read.  An
absolute reference, and one with an authority of its own, keeps its path as it is.
-/
import GraphPattern.Iri.Reference

namespace GraphPattern.Iri

/-- The path up to its last slash, which is kept.  Under an authority an empty
path counts as `/`. -/
def mergeStart (base : Head) : List Char :=
  if base.path.isEmpty && base.authority.isSome then ['/']
  else (base.path.reverse.dropWhile (· != '/')).reverse

/-- Takes the last segment off a path that ends in a slash.  The slash after an
authority stays. -/
def dropSegment (authority : Bool) (path : List Char) : List Char :=
  let shorter := (path.dropLast.reverse.dropWhile (· != '/')).reverse
  if shorter.isEmpty && authority then ['/'] else shorter

/-- Refuses a path that would read as an authority. -/
def checkStart (authority : Bool) (path : List Char) : Except Fault (List Char) :=
  if !authority && ['/', '/'].isPrefixOf path then .error .doubleSlash else .ok path

/-- Puts one segment on a path; `slash` tells whether one follows it. -/
def addSegment (authority : Bool) (path segment : List Char) (slash : Bool) :
    Except Fault (List Char) :=
  if segment = ['.'] then checkStart authority path
  else if segment = ['.', '.'] then checkStart authority (dropSegment authority path)
  else .ok (path ++ segment ++ (if slash then ['/'] else []))

/-- Reads segments onto `path`.  Each is put in its place before the next is read, so
that the first offence from the left is the fault. -/
def readSegments (authority : Bool) (path cs : List Char) :
    Except Fault (List Char × List Char) :=
  match h : scan (fun c => c == ':' || c == '@') isSegmentEnd cs with
  | .error fault => .error fault
  | .ok (segment, '/' :: rest) =>
    have : rest.length < cs.length := by
      have := append_of_scan h
      simp [← this]
      omega
    match addSegment authority path segment true with
    | .error fault => .error fault
    | .ok path => readSegments authority path rest
  | .ok (segment, rest) => do
    let path ← addSegment authority path segment false
    return (← checkStart authority path, rest)
termination_by cs.length

/-- Reads the path of a reference with neither scheme nor authority, as it stands
under a base.  A colon in its first segment would make that one a scheme. -/
def readPathOnto (base : Head) (cs : List Char) : Except Fault (List Char × List Char) :=
  match cs with
  | [] => .ok (base.path, [])
  | '/' :: rest => readSegments base.authority.isSome ['/'] rest
  | c :: _ =>
    if isPathEnd c then .ok (base.path, cs)
    else do
      let _ ← scan (· == '@') isSegmentEnd cs
      readSegments base.authority.isSome (mergeStart base) cs

/-- Reads a reference up to its query, as it stands under a base. -/
def readHeadOnto (base : Head) (cs : List Char) : Except Fault (Head × List Char) :=
  match cs with
  | ':' :: _ => .error .noScheme
  | '/' :: '/' :: _ => readHierarchy base.scheme cs
  | _ =>
    match splitScheme cs with
    | some (scheme, rest) => readHierarchy (some scheme) rest
    | none => do
      let (path, rest) ← readPathOnto base cs
      return ({ base with path := path }, rest)

/-- The absolute IRI that a reference stands for under a base.  The query of the
base is kept by a reference that has neither path nor query of its own. -/
def Components.resolve (base : Components) (cs : List Char) : Except Fault Components := do
  let (head, rest) ← readHeadOnto base.head cs
  let tail ← readTail rest
  if cs.isEmpty || cs.head? = some '#' then
    return ⟨head, { tail with query := base.tail.query }⟩
  else return ⟨head, tail⟩

end GraphPattern.Iri
