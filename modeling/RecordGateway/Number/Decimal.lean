import RecordGateway.Number.Binary64
/-!
# Reading decimal numbers

Signed 64-bit integers and decimal fractions with an exponent. Only ASCII
digits count. A fraction is rounded once, from its exact value, to the nearest
binary number.
-/
namespace RecordGateway

def digitValue (c : Char) : Nat := c.toNat - '0'.toNat

def digitsValue (digits : List Char) : Nat := digits.foldl (fun n c => 10 * n + digitValue c) 0

/-- An optional sign; `true` means minus. -/
def takeSign : List Char → Bool × List Char
  | '-' :: rest => (true, rest)
  | '+' :: rest => (false, rest)
  | cs => (false, cs)

def int64Min : Int := -9223372036854775808
def int64Max : Int := 9223372036854775807

def readInteger (cs : List Char) : Option Int :=
  let (minus, digits) := takeSign cs
  if digits.isEmpty || !digits.all Char.isDigit then none
  else some (if minus then -(digitsValue digits : Int) else digitsValue digits)

def readInt64 (cs : List Char) : Option Int64 :=
  (readInteger cs).bind fun n =>
    if int64Min ≤ n ∧ n ≤ int64Max then some (Int64.ofInt n) else none

/-- A decimal fraction `± digits * 10 ^ exponent`. -/
structure Decimal where
  negative : Bool
  digits : Nat
  exponent : Int
deriving DecidableEq

namespace Decimal

/-- The nearest binary number. A value whose leading digit stands far outside the range of
the format is not multiplied out. -/
def toBinary64 (x : Decimal) : Binary64 :=
  let size : Int := (Nat.toDigits 10 x.digits).length + x.exponent
  if x.digits = 0 || size < -400 then Binary64.ofSign x.negative 0
  else if 400 < size then Binary64.infinity x.negative
  else if 0 ≤ x.exponent then Binary64.ofRatio x.negative (x.digits * pow10 x.exponent.toNat) 1
  else Binary64.ofRatio x.negative x.digits (pow10 (-x.exponent).toNat)

def readExponent : List Char → Option Int
  | [] => some 0
  | c :: rest =>
    if c = 'e' || c = 'E' then readInteger rest else none

/-- Read a sign, digits, a point with digits and an exponent, all optional, with a digit
before or after the point. -/
def read? (cs : List Char) : Option Decimal :=
  let (minus, body) := takeSign cs
  let whole := body.takeWhile Char.isDigit
  let afterWhole := body.dropWhile Char.isDigit
  let (places, afterPlaces) := match afterWhole with
    | '.' :: rest => (rest.takeWhile Char.isDigit, rest.dropWhile Char.isDigit)
    | rest => ([], rest)
  if whole.isEmpty && places.isEmpty then none
  else (readExponent afterPlaces).map fun e =>
    ⟨minus, digitsValue (whole ++ places), e - places.length⟩

end Decimal

/-- Read a binary number: a decimal fraction, or `inf`, `infinity` or `nan` in any case after
an optional sign. -/
def readBinary64 (cs : List Char) : Option Binary64 :=
  match Decimal.read? cs with
  | some d => some d.toBinary64
  | none =>
    let (minus, body) := takeSign cs
    let word := String.ofList (body.map Char.toLower)
    if word = "inf" || word = "infinity" then some (Binary64.infinity minus)
    else if word = "nan" then some Binary64.nan
    else none

end RecordGateway
