/-
Signed 64-bit integers and their decimal text.

Arithmetic is done on `Int`; `Integer.inRange` is the check that a result still
fits, and `Integer.ofText?` reads an optional sign and decimal digits within that
range.
-/

namespace GraphPattern.Integer

/-- The smallest and the largest number of 64 bits with a sign. -/
def minValue : Int := -9223372036854775808

@[inherit_doc minValue]
def maxValue : Int := 9223372036854775807

def inRange (n : Int) : Bool := decide (minValue ≤ n ∧ n ≤ maxValue)

/-- The number itself, if it fits. -/
def checked (n : Int) : Option Int := if inRange n then some n else none

def isDigit (c : Char) : Bool := '0' ≤ c && c ≤ '9'

def readDigits? (cs : List Char) : Option Nat :=
  if cs.isEmpty then none
  else if cs.all isDigit then some (Nat.ofDigitChars 10 cs 0)
  else none

/-- Reads digits behind an optional sign, without a limit. -/
def readSigned? : List Char → Option Int
  | '-' :: cs => (readDigits? cs).map fun n => -(n : Int)
  | '+' :: cs => (readDigits? cs).map fun n => (n : Int)
  | cs => (readDigits? cs).map fun n => (n : Int)

/-- The integer written by a text, if it writes one that fits. -/
def ofText? (s : String) : Option Int := (readSigned? s.toList).bind checked

def digits (n : Int) : List Char :=
  if n < 0 then '-' :: Nat.toDigits 10 n.natAbs else Nat.toDigits 10 n.natAbs

def text (n : Int) : String := String.ofList (digits n)

end GraphPattern.Integer
