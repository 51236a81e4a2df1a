/-
White space around texts, and texts in quotes as messages show them.

Inside the quotes a quote and a backslash stand behind a backslash, the common
controls have short names, and whatever does not print is given by its code
point.
-/
import GraphPattern.Unicode.Property

namespace GraphPattern.Text

/-- The white space of every script: tab to carriage return, space, next line, the
no-break space and the spaces and line separators of other scripts. -/
def isBlank (c : Char) : Bool :=
  let n := c.toNat
  (9 ≤ n && n ≤ 13) || n == 0x20 || n == 0x85 || n == 0xA0 || n == 0x1680 ||
    (0x2000 ≤ n && n ≤ 0x200A) || n == 0x2028 || n == 0x2029 || n == 0x202F ||
    n == 0x205F || n == 0x3000

def trimStart (cs : List Char) : List Char := cs.dropWhile isBlank

/-- Drops white space at both ends. -/
def trimChars (cs : List Char) : List Char := (trimStart (trimStart cs).reverse).reverse

def trim (s : String) : String := String.ofList (trimChars s.toList)

def hexDigits (n : Nat) : List Char := Nat.toDigits 16 n

/-- A character that is given by its code point. -/
def codePointEscape (c : Char) : List Char :=
  ['\\', 'u', '\x7b'] ++ hexDigits c.toNat ++ ['\x7d']

def quotedChar (c : Char) : List Char :=
  if c == '\x00' then ['\\', '0']
  else if c == '\t' then ['\\', 't']
  else if c == '\r' then ['\\', 'r']
  else if c == '\n' then ['\\', 'n']
  else if c == '"' then ['\\', '"']
  else if c == '\\' then ['\\', '\\']
  else if Unicode.isGraphic c then [c]
  else codePointEscape c

def quoted (s : String) : String :=
  String.ofList ('"' :: (s.toList.flatMap quotedChar ++ ['"']))

end GraphPattern.Text
