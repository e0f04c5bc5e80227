import RecordGateway.Number.Paired
/-!
# Fifteen significant digits

A binary number written with fifteen significant decimal digits, trailing zeros
dropped but one digit kept after the point. The digits come from the number
scaled to a whole number of eighteen or nineteen digits, which is not rounded
but cut off. Numbers below `10 ^ -4` and from `10 ^ 15` on are written with a
signed exponent of two digits or more.
-/
namespace RecordGateway.Binary64

/-- Multiply a pair by the factor until its head is no longer outside, and count `step` for every
time; the fuel bounds the number of times. -/
def scaleWhile (outside : Binary64 → Bool) (factor : Paired) (step : Int) :
    Nat → Paired × Int → Paired × Int
  | 0, state => state
  | fuel + 1, (x, e) =>
    if outside x.head then scaleWhile outside factor step fuel (x.times factor, e + step)
    else (x, e)

def above (bound : UInt64) (x : Binary64) : Bool := bound < x.bits

def below (bound : UInt64) (x : Binary64) : Bool := x.bits < bound

/-- A positive number as a pair of eighteen or nineteen digits before the point times a power of
ten. The bounds are `2 ^ 63 - 1024` times `10 ^ 100`, `10 ^ 10`, `1`, `10 ^ -101`, `10 ^ -11` and
`10 ^ -1`. -/
def scaled (x : Binary64) : Paired × Int :=
  let start : Paired × Int := (⟨x, ⟨0⟩⟩, 0)
  if x.above 0x43DFFFFFFFFFFFFF then
    scaleWhile (above 0x43DFFFFFFFFFFFFF) .tenth 1 16
      (scaleWhile (above 0x45F2A05F1FFFFFFF) .tenthTo10 10 16
        (scaleWhile (above 0x58A249AD2594C37C) .tenthTo100 100 16 start))
  else
    scaleWhile (below 0x43A9999999999999) .ten (-1) 16
      (scaleWhile (below 0x4195FD7FE1796495) .tenTo10 (-10) 16
        (scaleWhile (below 0x2EE665BF1D3E6A8C) .tenTo100 (-100) 16 start))

def pairedWholePart (x : Paired) : Nat :=
  if x.tail.negative then x.head.wholePart - x.tail.wholePart
  else x.head.wholePart + x.tail.wholePart

/-- The first digits of a number as a number, a five in the next place rounded up. -/
def roundDigits (count : Nat) (digits : List Char) : List Char :=
  let kept := (digits.take count).foldl (fun n c => 10 * n + (c.toNat - '0'.toNat)) 0
  match digits.drop count with
  | [] => digits
  | next :: _ => Nat.toDigits 10 (if '5' ≤ next then kept + 1 else kept)

def trimZeros (digits : List Char) : List Char :=
  (digits.reverse.dropWhile (· == '0')).reverse

def orZero (digits : List Char) : List Char := if digits.isEmpty then ['0'] else digits

def significantText (x : Binary64) : String :=
  let sign := if x.negative then ['-'] else []
  if x.isNaN then "NaN"
  else if x.isInfinite then String.ofList (sign ++ "Inf".toList)
  else if x.isZero then "0.0"
  else
    let (pair, power) := (ofSign false (x.bits.toNat % pow2 63)).scaled
    let whole := Nat.toDigits 10 (pairedWholePart pair)
    let digits := roundDigits 15 whole
    let carried : Int := if 15 < digits.length then 1 else 0
    let e := whole.length + power - 1 + carried
    let digits := digits.take 15
    let body :=
      if e < -4 || 15 ≤ e then
        let power := Nat.toDigits 10 e.natAbs
        digits.take 1 ++ '.' :: orZero (trimZeros (digits.drop 1)) ++
          'e' :: (if e < 0 then '-' else '+') ::
          (List.replicate (2 - power.length) '0' ++ power)
      else if e < 0 then
        '0' :: '.' :: (List.replicate (-e - 1).toNat '0' ++ trimZeros digits)
      else
        let whole := e.toNat + 1
        digits.take whole ++ '.' :: orZero (trimZeros (digits.drop whole))
    String.ofList (sign ++ body)

end RecordGateway.Binary64
