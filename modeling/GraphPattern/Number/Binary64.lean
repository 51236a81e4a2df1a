/-
Binary64 numbers and the rationals they stand for.

A bit pattern is a sign, a mantissa and a power of two; `decode` reads it,
`ofRatio` goes the other way and rounds a quotient to the nearest number,
a tie going to the even mantissa.  What has to be exact — reading decimals,
converting integers, the remainder — is done on natural numbers between the
two.
-/

namespace GraphPattern.Binary64

/-- What a bit pattern stands for; `finite` is `± mantissa · 2 ^ exponent`. -/
inductive Decoded where
  | nan
  | infinite (negative : Bool)
  | finite (negative : Bool) (mantissa : Nat) (exponent : Int)
deriving DecidableEq, Repr

def minExponent : Int := -1074

/-- Splits the bits into sign, eleven exponent bits and 52 fraction bits. -/
def decode (x : Float) : Decoded :=
  let bits : Nat := x.toBits.toNat
  let negative := decide (bits / Nat.pow 2 63 = 1)
  let biased : Nat := bits / Nat.pow 2 52 % Nat.pow 2 11
  let fraction : Nat := bits % Nat.pow 2 52
  if biased = 2047 then
    if fraction = 0 then .infinite negative else .nan
  else if biased = 0 then .finite negative fraction minExponent
  else .finite negative (Nat.pow 2 52 + fraction) ((biased : Int) - 1075)

/-- The natural number nearest to `num / den`, a tie going to the even one. -/
def roundQuotient (num den : Nat) : Nat :=
  let q := num / den
  let r := num % den
  if 2 * r < den then q
  else if den < 2 * r then q + 1
  else if q % 2 = 0 then q else q + 1

/-- Numerator and denominator of `num / den · 2 ^ k`. -/
def shiftRatio (num den : Nat) (k : Int) : Nat × Nat :=
  (num * Nat.pow 2 k.toNat, den * Nat.pow 2 (-k).toNat)

/-- The power of two that leaves 53 bits before the point of `num / den`, and
no less than the smallest one. -/
def ratioExponent (num den : Nat) : Int :=
  let low : Int := (Nat.log2 num : Int) - Nat.log2 den - 53
  let (n, d) := shiftRatio num den (-low)
  max minExponent (if Nat.pow 2 53 * d ≤ n then low + 1 else low)

/-- The number with the given sign bit and the remaining 63 bits. -/
def ofMagnitude (negative : Bool) (bits : Nat) : Float :=
  Float.ofBits (UInt64.ofNat ((if negative then Nat.pow 2 63 else 0) + bits))

/-- The number nearest to `± num / den`; past the largest one it is infinite.

A mantissa that rounds up to `2 ^ 53` carries into the exponent bits. -/
def ofRatio (negative : Bool) (num den : Nat) : Float :=
  if num = 0 then ofMagnitude negative 0
  else
    let e := ratioExponent num den
    let (n, d) := shiftRatio num den (-e)
    let bits := (e - minExponent).toNat * Nat.pow 2 52 + roundQuotient n d
    ofMagnitude negative (min bits (2047 * Nat.pow 2 52))

def ofInt (n : Int) : Float := ofRatio (decide (n < 0)) n.natAbs 1

def nan : Float := Float.ofBits 0x7ff8000000000000

def infinity (negative : Bool) : Float := ofMagnitude negative (2047 * Nat.pow 2 52)

/-- The remainder of dividing `x` by `y` towards zero, exact, with the sign of
`x`.  There is none for an infinite `x` or a zero `y`. -/
def remainder (x y : Float) : Float :=
  match decode x, decode y with
  | .finite negative m e, .finite _ m' e' =>
    if m' = 0 then nan
    else
      let low := min e e'
      let r := (m * Nat.pow 2 (e - low).toNat) % (m' * Nat.pow 2 (e' - low).toNat)
      let (num, den) := shiftRatio r 1 low
      ofRatio negative num den
  | .finite .., .infinite _ => x
  | _, _ => nan

end GraphPattern.Binary64
