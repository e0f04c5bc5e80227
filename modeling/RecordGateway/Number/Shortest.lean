import RecordGateway.Number.Binary64
/-!
# The shortest decimal of a binary number

The decimals that round to a given number fill an interval, ends included
exactly when the significand is even. The text of a number takes the coarsest
power of ten that has a multiple in this interval, of its multiples the one
nearest to the number, and of two equally near ones the upper. It is written
without an exponent and without a trailing point.
-/
namespace RecordGateway.Binary64

/-- The interval of reals that round to a positive number and the number itself, all in
quarters of a unit. -/
structure Neighbourhood where
  low : Nat
  middle : Nat
  high : Nat
  closed : Bool

def neighbourhood (x : Binary64) : Neighbourhood :=
  let m := x.significand
  let narrow := x.fraction == 0 && 1 < x.exponentField
  { low := (if narrow then 4 * m - 1 else 4 * m - 2) * pow2 x.shift
    middle := 4 * m * pow2 x.shift
    high := (4 * m + 2) * pow2 x.shift
    closed := m % 2 == 0 }

/-- Both sides are cleared of fractions: `n` quarters of a unit against `d * 10 ^ k`. -/
def onGrid (k : Int) (n : Nat) : Nat × Nat :=
  if 0 ≤ k then (n, pow2 1076 * pow10 k.toNat) else (n * pow10 (-k).toNat, pow2 1076)

/-- The multiple of `10 ^ k` in the interval that is nearest to its middle, if there is one. -/
def nearestOnGrid (h : Neighbourhood) (k : Int) : Option Nat :=
  let (middle, one) := onGrid k h.middle
  let low := (onGrid k h.low).1
  let high := (onGrid k h.high).1
  let inside (d : Nat) : Bool :=
    if h.closed then low ≤ d * one && d * one ≤ high else low < d * one && d * one < high
  let down := middle / one
  let up := down + 1
  let upNearer : Bool := up * one - middle ≤ middle - down * one
  if inside down && inside up then some (if upNearer then up else down)
  else if inside down then some down
  else if inside up then some up
  else none

/-- Digits `d` and exponent `k` of the shortest decimal `d * 10 ^ k` of a positive number. -/
def shortest (x : Binary64) : Nat × Int :=
  let h := x.neighbourhood
  let top : Int := ((Nat.log2 x.magnitude + 1) * 31 / 100 + 1 : Nat) - 323
  ((List.range 64).findSome? fun (i : Nat) =>
    (nearestOnGrid h (top - i)).map fun d => (d, top - (i : Int))).getD (0, 0)

def positional (d : Nat) (k : Int) : List Char :=
  let digits := Nat.toDigits 10 d
  if 0 ≤ k then digits ++ List.replicate k.toNat '0'
  else
    let places := (-k).toNat
    let padded := List.replicate (places + 1 - digits.length) '0' ++ digits
    padded.take (padded.length - places) ++ '.' :: padded.drop (padded.length - places)

def text (x : Binary64) : String :=
  if x.isNaN then "NaN"
  else
    let body := if x.isInfinite then "inf".toList
      else if x.isZero then ['0']
      else positional x.shortest.1 x.shortest.2
    String.ofList (if x.negative then '-' :: body else body)

end RecordGateway.Binary64
