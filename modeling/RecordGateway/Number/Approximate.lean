import RecordGateway.Number.Decimal
import RecordGateway.Number.Paired
/-!
# Approximate reading

A decimal fraction read through its first eighteen or nineteen digits and paired
multiplication by powers of ten. The number found is the nearest one for most
fractions and a neighbour of it for the rest.
-/
namespace RecordGateway.Decimal

/-- The largest number of digits that are kept while the next digit is still taken. -/
def digitLimit : Nat := 922337203685477579

/-- The digits of a fraction up to the one that reaches the limit; those after it only count as
places. -/
def leadingDigits (x : Decimal) (length : Nat) : Nat × Int :=
  let lead := x.digits / pow10 (length - 18)
  if lead < digitLimit then (x.digits / pow10 (length - 19), x.exponent + (length - 19 : Nat))
  else (lead, x.exponent + (length - 18 : Nat))

/-- Move powers of ten from the exponent to the digits as long as 64 bits hold them. -/
def fillDigits : Nat → Nat → Nat × Nat
  | digits, 0 => (digits, 0)
  | digits, e + 1 =>
    if digits < 1844674407370954956 then fillDigits (10 * digits) e else (digits, e + 1)

def dropZeros : Nat → Nat → Nat × Nat
  | digits, 0 => (digits, 0)
  | digits, e + 1 => if digits % 10 = 0 then dropZeros (digits / 10) e else (digits, e + 1)

def pairOfNat (n : Nat) : Paired :=
  let head := Binary64.ofRatio false n 1
  ⟨head, Binary64.ofInt ((n : Int) - head.wholePart)⟩

/-- A binary number near the fraction. A value whose leading digit stands far outside the range
of the format is not multiplied out. -/
def nearby (x : Decimal) : Binary64 :=
  let length := (Nat.toDigits 10 x.digits).length
  let size : Int := length + x.exponent
  if x.digits = 0 || size < -400 then Binary64.ofSign x.negative 0
  else if 400 < size then Binary64.infinity x.negative
  else
    let (digits, e) := x.leadingDigits length
    let value :=
      if 0 ≤ e then
        let (digits, e) := fillDigits digits e.toNat
        ((pairOfNat digits).shiftUp e).total
      else
        let (digits, e) := dropZeros digits (-e).toNat
        ((pairOfNat digits).shiftDown e).total
    if x.negative then -value else value

end RecordGateway.Decimal
