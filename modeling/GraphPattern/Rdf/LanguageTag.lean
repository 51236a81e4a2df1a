/-
Language tags.

A tag is a list of subtags with hyphens between them.  `checkTag` reads them from
left to right — language, extended languages, script, region, variants,
extensions, private use — and reports the first subtag that does not fit;
registered irregular tags pass as they are.
-/

namespace GraphPattern.LanguageTag

/-- What is wrong with a text that should be a language tag. -/
inductive Fault where
  | emptySubtag
  | longSubtag
  | badLanguage
  | badSubtag
  | emptyExtension
  | emptyPrivateUse
  | manyExtendedLanguages
deriving DecidableEq, Repr

def Fault.message : Fault → String
  | .emptySubtag => "A subtag should not be empty"
  | .longSubtag => "A subtag may be eight characters in length at maximum"
  | .badLanguage => "The given language subtag is invalid"
  | .badSubtag => "A subtag fails to parse, it does not match any other subtags"
  | .emptyExtension => "If an extension subtag is present, it must not be empty"
  | .emptyPrivateUse => "If the \x60x\x60 subtag is present, it must not be empty"
  | .manyExtendedLanguages => "At maximum three extlangs are allowed"

/-- The irregular tags that are registered, in lower case. -/
def registered : List String :=
  ["art-lojban", "cel-gaulish", "en-gb-oed", "i-ami", "i-bnn", "i-default", "i-enochian",
    "i-hak", "i-klingon", "i-lux", "i-mingo", "i-navajo", "i-pwn", "i-tao", "i-tay", "i-tsu",
    "no-bok", "no-nyn", "sgn-be-fr", "sgn-be-nl", "sgn-ch-de", "zh-guoyu", "zh-hakka",
    "zh-min", "zh-min-nan", "zh-xiang"]

def isLetter (c : Char) : Bool := ('a' ≤ c && c ≤ 'z') || ('A' ≤ c && c ≤ 'Z')

def isDigit (c : Char) : Bool := '0' ≤ c && c ≤ '9'

def allLetters (subtag : List Char) : Bool := subtag.all isLetter

def allDigits (subtag : List Char) : Bool := subtag.all isDigit

def allAlphanumeric (subtag : List Char) : Bool := subtag.all fun c => isLetter c || isDigit c

/-- How far a tag has been read. -/
inductive Place where
  | start
  /-- After the language, or an extended language; `extended` of them so far. -/
  | language (extended : Nat)
  /-- After a language of four letters or more, which has no extended ones. -/
  | longLanguage
  | script
  /-- After the region or a variant. -/
  | region
  /-- After the letter of an extension, `empty` until a subtag follows it. -/
  | extension (empty : Bool)
  | privateUse (empty : Bool)
deriving DecidableEq, Repr

namespace Place

/-- Whether a script may follow. -/
def beforeScript : Place → Bool
  | language _ | longLanguage => true
  | _ => false

/-- Whether a region may follow. -/
def beforeRegion : Place → Bool
  | script => true
  | p => p.beforeScript

/-- Whether a variant may follow. -/
def beforeVariant : Place → Bool
  | region => true
  | p => p.beforeRegion

end Place

/-- Two letters or three digits. -/
def isRegion (subtag : List Char) : Bool :=
  (subtag.length == 2 && allLetters subtag) || (subtag.length == 3 && allDigits subtag)

/-- Letters and digits, at least four behind a digit and five behind a letter. -/
def isVariant (subtag : List Char) : Bool :=
  allAlphanumeric subtag &&
    match subtag with
    | [] => false
    | c :: _ => (5 ≤ subtag.length && isLetter c) || (4 ≤ subtag.length && isDigit c)

/-- Reads the subtags that may follow in the middle of a tag. -/
def readMiddle (place : Place) (subtag : List Char) : Except Fault Place :=
  let other :=
    if place.beforeScript && subtag.length == 4 && allLetters subtag then .ok .script
    else if place.beforeRegion && isRegion subtag then .ok .region
    else if place.beforeVariant && isVariant subtag then .ok .region
    else .error .badSubtag
  match place with
  | .language extended =>
    if subtag.length == 3 && allLetters subtag then
      if extended < 3 then .ok (.language (extended + 1)) else .error .manyExtendedLanguages
    else other
  | _ => other

/-- Reads a subtag of one to eight bytes. -/
def readSubtag (place : Place) (subtag : List Char) : Except Fault Place :=
  let single := subtag.length == 1 && allAlphanumeric subtag
  match place with
  | .start =>
    if subtag.length < 2 || !allLetters subtag then .error .badLanguage
    else if subtag.length < 4 then .ok (.language 0)
    else .ok .longLanguage
  | .privateUse _ =>
    if allAlphanumeric subtag then .ok (.privateUse false) else .error .badSubtag
  | .extension empty =>
    if single then
      if empty then .error .emptyExtension
      else if subtag = ['x'] then .ok (.privateUse true)
      else .ok (.extension true)
    else if allAlphanumeric subtag then .ok (.extension false)
    else .error .badSubtag
  | _ =>
    if subtag = ['x'] then .ok (.privateUse true)
    else if single then .ok (.extension true)
    else readMiddle place subtag

/-- Reads the subtags that are left. -/
def readSubtags (place : Place) : List (List Char) → Except Fault Place
  | [] => .ok place
  | subtag :: rest =>
    if subtag.isEmpty then .error .emptySubtag
    else if 8 < (String.ofList subtag).utf8ByteSize then .error .longSubtag
    else
      match readSubtag place subtag with
      | .ok place => readSubtags place rest
      | .error fault => .error fault

/-- Cuts a text at its hyphens. -/
def splitSubtags : List Char → List (List Char)
  | [] => [[]]
  | '-' :: rest => [] :: splitSubtags rest
  | c :: rest =>
    match splitSubtags rest with
    | [] => [[c]]
    | first :: others => (c :: first) :: others

/-- Checks a tag in lower case. -/
def check (tag : String) : Except Fault Unit :=
  if tag ∈ registered then .ok ()
  else
    match tag.toList with
    | ['x', '-'] => .error .emptyPrivateUse
    | 'x' :: '-' :: rest => (readSubtags (.privateUse false) (splitSubtags rest)).map fun _ => ()
    | cs =>
      match readSubtags .start (splitSubtags cs) with
      | .ok (.extension true) => .error .emptyExtension
      | .ok (.privateUse true) => .error .emptyPrivateUse
      | .ok _ => .ok ()
      | .error fault => .error fault

def isTag (tag : String) : Bool :=
  match check tag with
  | .ok () => true
  | .error _ => false

end GraphPattern.LanguageTag

namespace GraphPattern

/-- A language tag in lower case. -/
structure LanguageTag where
  text : String
  valid : LanguageTag.isTag text = true
deriving DecidableEq

def LanguageTag.lower (s : String) : String := String.ofList (s.toList.map Char.toLower)

/-- The tag written by a text in either case. -/
def LanguageTag.ofText (s : String) : Except LanguageTag.Fault LanguageTag :=
  match h : LanguageTag.check (LanguageTag.lower s) with
  | .ok () => .ok ⟨LanguageTag.lower s, by simp [LanguageTag.isTag, h]⟩
  | .error fault => .error fault

end GraphPattern
