/-
The texts of binary64 numbers.

`Double.ofText?` reads decimal and exponent notation, infinities and NaN;
`Double.text` writes the shortest digits that read back, positional at every
size; `Double.scientificText` is the form quoted in messages, which always shows
a fraction or an exponent.
-/
import GraphPattern.Number.Binary64
import GraphPattern.Number.Shortest

namespace GraphPattern.Double

open Binary64

/-- A run of ASCII digits at the front, and what follows it. -/
def digitRun (cs : List Char) : List Char × List Char :=
  cs.span (fun c => '0' ≤ c && c ≤ '9')

def digitsValue (cs : List Char) : Nat := Nat.ofDigitChars 10 cs 0

/-- Reads the sign in front, if there is one. -/
def splitSign : List Char → Bool × List Char
  | '-' :: cs => (true, cs)
  | '+' :: cs => (false, cs)
  | cs => (false, cs)

/-- Exponents past this bound are as good as the bound. -/
def exponentBound : Nat := 100000

def readExponent? : List Char → Option Int
  | [] => some 0
  | c :: cs =>
    if c = 'e' ∨ c = 'E' then
      let (negative, cs) := splitSign cs
      let (ds, rest) := digitRun cs
      if ds.isEmpty || !rest.isEmpty then none
      else
        let n : Int := min (digitsValue ds) exponentBound
        some (if negative then -n else n)
    else none

/-- The number nearest to `± digits · 10 ^ exponent`.  Magnitudes far outside the
range are settled without writing the power out. -/
def ofDecimal (negative : Bool) (digits : Nat) (exponent : Int) : Float :=
  let place : Int := Shortest.digitCount digits + exponent
  if digits = 0 ∨ place < -340 then ofRatio negative 0 1
  else if 320 < place then infinity negative
  else ofRatio negative (digits * Nat.pow 10 exponent.toNat) (Nat.pow 10 (-exponent).toNat)

/-- Reads digits with an optional point, at least one digit in all, and an
optional exponent. -/
def readDecimal? (negative : Bool) (cs : List Char) : Option Float :=
  let (whole, rest) := digitRun cs
  let (fraction, rest) := match rest with
    | '.' :: rest => digitRun rest
    | rest => ([], rest)
  if whole.isEmpty && fraction.isEmpty then none
  else (readExponent? rest).map fun e =>
    ofDecimal negative (digitsValue (whole ++ fraction)) (e - fraction.length)

def lowerAscii (cs : List Char) : List Char := cs.map Char.toLower

/-- The number written by a text, if it writes one. -/
def ofText? (s : String) : Option Float :=
  let (negative, cs) := splitSign s.toList
  let word := lowerAscii cs
  if word = "inf".toList ∨ word = "infinity".toList then some (infinity negative)
  else if word = "nan".toList then some nan
  else readDecimal? negative cs

def signText (negative : Bool) : String := if negative then "-" else ""

def zeros (n : Nat) : List Char := List.replicate n '0'

def positional (d : Shortest.Decimal) : List Char :=
  let ds := Nat.toDigits 10 d.digits
  let point := (ds.length : Int) + d.exponent
  if 0 ≤ d.exponent then ds ++ zeros d.exponent.toNat
  else if 0 < point then ds.take point.toNat ++ '.' :: ds.drop point.toNat
  else '0' :: '.' :: (zeros (-point).toNat ++ ds)

/-- The text of `d` with one digit before the point and an exponent. -/
def scientific (d : Shortest.Decimal) : List Char :=
  match Nat.toDigits 10 d.digits with
  | [] => []
  | c :: cs =>
    let exponent := toString (d.exponent + cs.length)
    c :: ((if cs.isEmpty then [] else '.' :: cs) ++ 'e' :: exponent.toList)

/-- Shortest digits that read back, never with an exponent. -/
def text (x : Float) : String :=
  match decode x with
  | .nan => "NaN"
  | .infinite negative => signText negative ++ "inf"
  | .finite negative m q =>
    if m = 0 then signText negative ++ "0"
    else signText negative ++ String.ofList (positional (Shortest.ofFinite m q))

/-- From `10 ^ 16` on and below `10 ^ -4` a number is quoted with an exponent,
else with at least one digit after the point. -/
def scientificText (x : Float) : String :=
  match decode x with
  | .nan => "NaN"
  | .infinite negative => signText negative ++ "inf"
  | .finite negative m q =>
    if m = 0 then signText negative ++ "0.0"
    else
      let d := Shortest.ofFinite m q
      let place : Int := Shortest.digitCount d.digits + d.exponent
      let body :=
        if 16 < place ∨ place < -3 then scientific d
        else if 0 ≤ d.exponent then positional d ++ ['.', '0']
        else positional d
      signText negative ++ String.ofList body

end GraphPattern.Double
