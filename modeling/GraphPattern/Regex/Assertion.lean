/-
Assertions about a place in a text, which is known by the characters before and
after it.
-/
import GraphPattern.Unicode.Property

namespace GraphPattern

/-- A place in a text: the character before it and the one after it. -/
structure Place where
  before : Option Char
  after : Option Char
deriving DecidableEq, Repr

/-- Assertions about a place.  Those about words have an ASCII form. -/
inductive Assertion where
  | textStart | textEnd
  | lineStart | lineEnd
  /-- Line ends where a carriage return, a line feed or both in this order end a
  line. -/
  | anyLineStart | anyLineEnd
  | wordBoundary (ascii : Bool)
  | noWordBoundary (ascii : Bool)
  | wordStart (ascii : Bool)
  | wordEnd (ascii : Bool)
  /-- No word character before. -/
  | wordStartHalf (ascii : Bool)
  /-- No word character after. -/
  | wordEndHalf (ascii : Bool)
deriving DecidableEq, Repr, Ord

namespace Assertion

/-- Letters, digits and the underscore. -/
def isAsciiWord (c : Char) : Bool := c.isAlphanum || c == '_'

def isWordAt (ascii : Bool) : Option Char → Bool
  | none => false
  | some c => if ascii then isAsciiWord c else Unicode.wordSet.contains c

def holds : Assertion → Place → Bool
  | textStart, p => p.before.isNone
  | textEnd, p => p.after.isNone
  | lineStart, p => p.before.isNone || p.before == some '\n'
  | lineEnd, p => p.after.isNone || p.after == some '\n'
  | anyLineStart, p =>
    p.before.isNone || p.before == some '\n' || (p.before == some '\r' && p.after != some '\n')
  | anyLineEnd, p =>
    p.after.isNone || p.after == some '\r' || (p.after == some '\n' && p.before != some '\r')
  | wordBoundary ascii, p => isWordAt ascii p.before != isWordAt ascii p.after
  | noWordBoundary ascii, p => isWordAt ascii p.before == isWordAt ascii p.after
  | wordStart ascii, p => !isWordAt ascii p.before && isWordAt ascii p.after
  | wordEnd ascii, p => isWordAt ascii p.before && !isWordAt ascii p.after
  | wordStartHalf ascii, p => !isWordAt ascii p.before
  | wordEndHalf ascii, p => !isWordAt ascii p.after

end Assertion

end GraphPattern
