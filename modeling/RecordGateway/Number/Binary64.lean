import RecordGateway.Number.Power
/-!
# Binary floating point numbers

A number of the IEEE 754 format binary64 is kept as its 64 bits. Comparison
goes through the exact value, counted in units of `2 ^ -1074`, of which every
finite number is a whole multiple; an infinity counts as `2 ^ 1024`. Rounding a
ratio of naturals to the nearest number is exact as well.
-/
namespace RecordGateway

structure Binary64 where
  bits : UInt64
deriving DecidableEq, Inhabited

namespace Binary64

def negative (x : Binary64) : Bool := pow2 63 ≤ x.bits.toNat

def exponentField (x : Binary64) : Nat := x.bits.toNat / pow2 52 % pow2 11

def fraction (x : Binary64) : Nat := x.bits.toNat % pow2 52

def isNaN (x : Binary64) : Bool := x.exponentField == 2047 && x.fraction != 0

def isInfinite (x : Binary64) : Bool := x.exponentField == 2047 && x.fraction == 0

def significand (x : Binary64) : Nat :=
  if x.exponentField = 0 then x.fraction else pow2 52 + x.fraction

def shift (x : Binary64) : Nat := x.exponentField - 1

/-- The absolute value in units of `2 ^ -1074`. -/
def magnitude (x : Binary64) : Nat := x.significand * pow2 x.shift

def units (x : Binary64) : Int := if x.negative then -(x.magnitude : Int) else x.magnitude

def isZero (x : Binary64) : Bool := x.magnitude == 0

/-- Numeric equality: a NaN equals nothing and the two zeros are equal. -/
def agrees (x y : Binary64) : Bool := !x.isNaN && !y.isNaN && x.units == y.units

def unitsOfInt (i : Int) : Int := i * (pow2 1074 : Int)

/-- Divide and round to the nearest integer, a half to the even neighbour. -/
def roundQuotient (n d : Nat) : Nat :=
  let q := n / d
  let twice := 2 * (n % d)
  if twice < d || (twice == d && q % 2 == 0) then q else q + 1

/-- The largest `e` with `2 ^ e ≤ n / d`, for positive `n` and `d`. -/
def floorLog2 (n d : Nat) : Int :=
  let guess : Int := (Nat.log2 n : Int) - Nat.log2 d
  let reached := if 0 ≤ guess then d * pow2 guess.toNat ≤ n else d ≤ n * pow2 (-guess).toNat
  if reached then guess else guess - 1

def ofSign (negative : Bool) (bits : Nat) : Binary64 :=
  ⟨UInt64.ofNat (if negative then pow2 63 + bits else bits)⟩

/-- The bits of positive infinity, which follow those of the largest finite number. -/
def infinityBits : Nat := 2047 * pow2 52

/-- The number nearest to `n / d` with the given sign; a tie goes to the even significand and
what lies beyond the largest number becomes an infinity. -/
def ofRatio (negative : Bool) (n d : Nat) : Binary64 :=
  if n = 0 || d = 0 then ofSign negative 0
  else
    let scale := max (floorLog2 n d - 52) (-1074)
    let significand :=
      if 0 ≤ scale then roundQuotient n (d * pow2 scale.toNat)
      else roundQuotient (n * pow2 (-scale).toNat) d
    let bits := (scale + 1074).toNat * pow2 52 + significand
    ofSign negative (min bits infinityBits)

def ofScaled (negative : Bool) (m : Nat) (e : Int) : Binary64 :=
  if m = 0 then ofSign negative 0
  else
    let place := max ((Nat.log2 m : Int) + e - 52) (-1074)
    let significand :=
      if place ≤ e then m * pow2 (e - place).toNat
      else roundQuotient m (pow2 (place - e).toNat)
    let bits := (place + 1074).toNat * pow2 52 + significand
    ofSign negative (min bits infinityBits)

def ofInt (i : Int) : Binary64 := ofRatio (i < 0) i.natAbs 1

def nan : Binary64 := ⟨0x7FF8000000000000⟩

def infinity (negative : Bool) : Binary64 := ofSign negative infinityBits

def neg (x : Binary64) : Binary64 := ofSign (!x.negative) (x.bits.toNat % pow2 63)

def mul (x y : Binary64) : Binary64 :=
  ofScaled (x.negative != y.negative) (x.significand * y.significand)
    ((x.shift : Int) + y.shift - 2148)

/-- The significand with its sign, in units of `2 ^ (low - 1074)`, where `low` is no greater than
the shift. -/
def signedSignificand (x : Binary64) (low : Nat) : Int :=
  let m := x.significand * pow2 (x.shift - low)
  if x.negative then -(m : Int) else m

def add (x y : Binary64) : Binary64 :=
  let low := min x.shift y.shift
  let sum := x.signedSignificand low + y.signedSignificand low
  ofScaled (sum < 0) sum.natAbs ((low : Int) - 1074)

instance : Neg Binary64 := ⟨neg⟩
instance : Mul Binary64 := ⟨mul⟩
instance : Add Binary64 := ⟨add⟩
instance : Sub Binary64 := ⟨fun x y => add x (neg y)⟩

def wholePart (x : Binary64) : Nat :=
  if 1074 ≤ x.shift then x.significand * pow2 (x.shift - 1074)
  else x.significand / pow2 (1074 - x.shift)

end Binary64
end RecordGateway
