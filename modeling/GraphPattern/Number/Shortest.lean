/-
The shortest decimal that reads back as a given binary64 number.

A finite number above zero is `m · 2 ^ q`; the reals that round to it form an
interval whose ends belong to it when `m` is even.  For one digit, two digits
and so on the two neighbours of the number on that decimal grid are tried; the
first grid with a neighbour in the interval gives the digits, the nearer of two
winning and an exact tie going up.
-/
import GraphPattern.Number.Binary64

namespace GraphPattern.Shortest

/-- The decimal `digits · 10 ^ exponent`. -/
structure Decimal where
  digits : Nat
  exponent : Int
deriving DecidableEq, Repr

def digitCount (n : Nat) : Nat := (Nat.toDigits 10 n).length

/-- The place of the first digit of `num / den`: the largest `k` with
`10 ^ k ≤ num / den`. -/
def leadingPlace (num den : Nat) : Int :=
  if den ≤ num then (digitCount (num / den) : Int) - 1
  else -(digitCount ((den - 1) / num) : Int)

/-- The reals that round to `mantissa · 2 ^ exponent`, in units of
`2 ^ (exponent - 2)`.  Below a power of two the spacing halves. -/
structure Interval where
  low : Nat
  mid : Nat
  high : Nat
  closed : Bool

def Interval.around (m : Nat) (q : Int) : Interval :=
  { low := if m = Nat.pow 2 52 ∧ q ≠ Binary64.minExponent then 4 * m - 1 else 4 * m - 2
    mid := 4 * m
    high := 4 * m + 2
    closed := m % 2 = 0 }

/-- The point of the grid `10 ^ place` that stands for the interval, if one of
the two neighbours of its middle lies in it.  The interval's unit is
`2 ^ unit`. -/
def Interval.gridPoint (i : Interval) (unit place : Int) : Option Nat :=
  let p := Nat.pow 2 unit.toNat * Nat.pow 10 (-place).toNat
  let q := Nat.pow 2 (-unit).toNat * Nat.pow 10 place.toNat
  let below := i.mid * p / q
  let rest := i.mid * p % q
  let above := if rest = 0 then below else below + 1
  let belowIn := i.low * p < below * q || (i.closed && i.low * p = below * q)
  let aboveIn := above * q < i.high * p || (i.closed && above * q = i.high * p)
  match belowIn, aboveIn with
  | true, true => some (if 2 * rest < q then below else above)
  | true, false => some below
  | false, true => some above
  | false, false => none

/-- Tries grid after grid, `fuel` of them; seventeen digits always suffice. -/
def Interval.search (i : Interval) (unit : Int) : Nat → Int → Decimal
  | 0, place => ⟨(i.gridPoint unit place).getD 0, place⟩
  | fuel + 1, place =>
    match i.gridPoint unit place with
    | some digits => ⟨digits, place⟩
    | none => i.search unit fuel (place - 1)

/-- Moves trailing zeros of the digits into the exponent. -/
def Decimal.normalize (d : Decimal) : Decimal :=
  if h : d.digits ≠ 0 ∧ d.digits % 10 = 0 then
    Decimal.normalize ⟨d.digits / 10, d.exponent + 1⟩
  else d
termination_by d.digits
decreasing_by omega

/-- The shortest decimal for `m · 2 ^ q`, where `m` is not zero. -/
def ofFinite (m : Nat) (q : Int) : Decimal :=
  let place := leadingPlace (m * Nat.pow 2 q.toNat) (Nat.pow 2 (-q).toNat)
  ((Interval.around m q).search (q - 2) 16 place).normalize

end GraphPattern.Shortest
