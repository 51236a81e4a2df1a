/-
The characters of IRIs, and what can be wrong with a text that should be one.
-/

namespace GraphPattern.Iri

def isAsciiLetter (c : Char) : Bool := ('a' ≤ c && c ≤ 'z') || ('A' ≤ c && c ≤ 'Z')

def isAsciiDigit (c : Char) : Bool := '0' ≤ c && c ≤ '9'

def isAsciiAlphanumeric (c : Char) : Bool := isAsciiLetter c || isAsciiDigit c

def isHexDigit (c : Char) : Bool :=
  isAsciiDigit c || ('a' ≤ c && c ≤ 'f') || ('A' ≤ c && c ≤ 'F')

/-- The ASCII characters that stand for themselves everywhere. -/
def isAsciiPlain (c : Char) : Bool :=
  isAsciiAlphanumeric c || c ∈ ['!', '$', '&', '\x27', '(', ')', '*', '+', ',', '-', '.', ';', '=',
    '_', '~']

def inRange (c : Char) (first last : Nat) : Bool := first ≤ c.toNat && c.toNat ≤ last

/-- The characters beyond ASCII that stand for themselves everywhere; the last two
code points of each plane are left out. -/
def isForeignPlain (c : Char) : Bool :=
  inRange c 0xA0 0xD7FF || inRange c 0xF900 0xFDCF || inRange c 0xFDF0 0xFFEF ||
    (inRange c 0x10000 0xDFFFD && c.toNat % 0x10000 ≤ 0xFFFD) || inRange c 0xE1000 0xEFFFD

/-- The characters that stand for themselves everywhere. -/
def isPlain (c : Char) : Bool := isAsciiPlain c || isForeignPlain c

/-- The private characters, allowed in queries only. -/
def isPrivate (c : Char) : Bool :=
  inRange c 0xE000 0xF8FF || inRange c 0xF0000 0xFFFFD || inRange c 0x100000 0x10FFFD

/-- Where a text stops being an IRI, or an IRI reference. -/
inductive Fault where
  /-- An absolute IRI starts with a scheme. -/
  | noScheme
  /-- A character that is not allowed where it stands. -/
  | badCodePoint (c : Char)
  /-- A percent sign without two hexadecimal digits. -/
  | badEscape (text : List Char)
  /-- Only digits may stand behind the colon after a host. -/
  | badHostNumber (c : Char)
  /-- A character that is not allowed in or after a bracketed host. -/
  | badHost (c : Char)
  /-- A bracketed host that is no IPv6 address. -/
  | badAddress
  /-- A path that would read as an authority. -/
  | doubleSlash
deriving DecidableEq, Repr

def Fault.message : Fault → String
  | .noScheme => "No scheme found in an absolute IRI"
  | .badCodePoint c => "Invalid IRI code point '" ++ c.toString ++ "'"
  | .badEscape cs => "Invalid IRI percent encoding '" ++ String.ofList cs ++ "'"
  | .badHostNumber c => "Invalid character '" ++ c.toString ++ "'"
  | .badHost c => "Invalid character '" ++ c.toString ++ "' in host"
  | .badAddress => "Invalid host IP (invalid IPv6 address syntax)"
  | .doubleSlash => "An IRI path is not allowed to start with //"

/-- Reads plain characters, escapes and those that `extra` allows, up to the first
that `stop` accepts.  Nothing is decoded: what is read is what stands there. -/
def scan (extra stop : Char → Bool) : List Char → Except Fault (List Char × List Char)
  | [] => .ok ([], [])
  | '%' :: a :: b :: rest =>
    if isHexDigit a && isHexDigit b then
      match scan extra stop rest with
      | .ok (read, rest) => .ok ('%' :: a :: b :: read, rest)
      | .error fault => .error fault
    else .error (.badEscape ['%', a, b])
  | c :: rest =>
    if stop c then .ok ([], c :: rest)
    else if c = '%' then .error (.badEscape (c :: rest))
    else if isPlain c || extra c then
      match scan extra stop rest with
      | .ok (read, rest) => .ok (c :: read, rest)
      | .error fault => .error fault
    else .error (.badCodePoint c)

theorem append_of_scan {extra stop : Char → Bool} {cs read rest : List Char}
    (h : scan extra stop cs = .ok (read, rest)) : read ++ rest = cs := by
  fun_induction scan extra stop cs generalizing read rest with
  | case1 => simp_all
  | case2 a b tail _ read' rest' found ih =>
    obtain ⟨rfl, rfl⟩ : '%' :: a :: b :: read' = read ∧ rest' = rest := by simp_all
    simp [ih found]
  | case3 => simp_all
  | case4 => simp_all
  | case5 => simp_all
  | case6 => simp_all
  | case7 c tail _ _ _ _ read' rest' found ih =>
    obtain ⟨rfl, rfl⟩ : c :: read' = read ∧ rest' = rest := by simp_all
    simp [ih found]
  | case8 => simp_all
  | case9 => simp_all

end GraphPattern.Iri
