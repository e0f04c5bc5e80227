import RecordGateway.Number.Binary64
/-!
# Paired numbers

The sum of two binary numbers, of which the second is small beside the first,
holds about twice the digits of one. Products of pairs are made from rounded
sums and products of binary numbers, so that their last digits may be wrong.
-/
namespace RecordGateway

namespace Binary64

def leading (x : Binary64) : Binary64 := ⟨x.bits &&& 0xFFFFFFFFFC000000⟩

end Binary64

/-- Stands for `head + tail`. -/
structure Paired where
  head : Binary64
  tail : Binary64
deriving DecidableEq

namespace Paired

/-- The product of a positive pair with a positive pair. The heads are cut in two, so that the
rounding error of their product can be told. A product beyond the largest number has no tail. -/
def times (x y : Paired) : Paired :=
  let xHigh := x.head.leading
  let xLow := x.head - xHigh
  let yHigh := y.head.leading
  let yLow := y.head - yHigh
  let outer := xHigh * yHigh
  let inner := xHigh * yLow + xLow * yHigh
  let product := outer + inner
  let rest := outer - product + inner + xLow * yLow
  let correction := x.head * y.tail + x.tail * y.head + rest
  let head := product + correction
  if product.isInfinite || head.isInfinite then ⟨Binary64.infinity false, ⟨0⟩⟩
  else ⟨head, product - head + correction⟩

def total (x : Paired) : Binary64 := if x.head.isInfinite then x.head else x.head + x.tail

def ten : Paired := ⟨⟨0x4024000000000000⟩, ⟨0⟩⟩

def tenTo10 : Paired := ⟨⟨0x4202A05F20000000⟩, ⟨0⟩⟩

def tenTo100 : Paired := ⟨⟨0x54B249AD2594C37D⟩, ⟨0xD134F4D87B3B31F4⟩⟩

def tenth : Paired := ⟨⟨0x3FB999999999999A⟩, ⟨0xBC5999999999999A⟩⟩

def tenthTo10 : Paired := ⟨⟨0x3DDB7CDFD9D7BDBB⟩, ⟨0xBA720A5465DF8D2C⟩⟩

def tenthTo100 : Paired := ⟨⟨0x2B2BFF2EE48E0530⟩, ⟨0xA7B42A68781D46C4⟩⟩

/-- Multiply by `10 ^ e`, by hundreds, tens and ones of the exponent. -/
def shiftUp (e : Nat) (x : Paired) : Paired :=
  let x := Nat.repeat (times · tenTo100) (e / 100) x
  let x := Nat.repeat (times · tenTo10) (e % 100 / 10) x
  Nat.repeat (times · ten) (e % 10) x

def shiftDown (e : Nat) (x : Paired) : Paired :=
  let x := Nat.repeat (times · tenthTo100) (e / 100) x
  let x := Nat.repeat (times · tenthTo10) (e % 100 / 10) x
  Nat.repeat (times · tenth) (e % 10) x

end Paired
end RecordGateway
