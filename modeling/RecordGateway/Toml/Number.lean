import RecordGateway.Toml.Quoted
import RecordGateway.Value
/-!
# Numbers

Integers in four bases and numbers with a fraction or an exponent. Single
underscores may stand between digits.
-/
namespace RecordGateway.Toml

/-- Digits with single underscores between them, without the underscores. The flag says that a
digit has come before. -/
def ungrouped (isDigit : Char → Bool) : Bool → List Char → Option (List Char)
  | afterDigit, [] => if afterDigit then some [] else none
  | true, '_' :: rest => ungrouped isDigit false rest
  | _, c :: rest =>
    if isDigit c then (ungrouped isDigit true rest).map (c :: ·) else none

def digits? (cs : List Char) : Option (List Char) := ungrouped Char.isDigit false cs

/-- The digits of a whole number, which starts with a zero only if that is all of it. -/
def wholeDigits? (cs : List Char) : Option (List Char) :=
  (digits? cs).bind fun ds => if ds.head? = some '0' ∧ 1 < cs.length then none else some ds

def isDigitBelow (base : Nat) (c : Char) : Bool :=
  match hexValue? c with
  | some n => n < base
  | none => false

def readBase (base : Nat) (cs : List Char) : Option Value :=
  (ungrouped (isDigitBelow base) false cs).bind fun ds =>
    let n := ds.foldl (fun n c => base * n + (hexValue? c).getD 0) 0
    if (n : Int) ≤ int64Max then some (.integer (Int64.ofNat n)) else none

def signChars (minus : Bool) : List Char := if minus then ['-'] else []

def readWhole (cs : List Char) : Option Value :=
  let (minus, body) := takeSign cs
  (wholeDigits? body).bind fun ds => (readInt64 (signChars minus ++ ds)).map .integer

def isExponentMark (c : Char) : Bool := c == 'e' || c == 'E'

def readPlaces : List Char → Option (List Char)
  | [] => some []
  | '.' :: places => (digits? places).map ('.' :: ·)
  | _ => none

def readPower : List Char → Option (List Char)
  | [] => some []
  | _ :: rest =>
    let (minus, body) := takeSign rest
    (digits? body).map fun ds => 'e' :: (signChars minus ++ ds)

/-- A decimal number with places, an exponent or both. One beyond the largest number is refused;
one below the smallest is minus infinity. -/
def readFraction (cs : List Char) : Option Value := do
  let (minus, body) := takeSign cs
  let mantissa := body.takeWhile fun c => !isExponentMark c
  let whole ← wholeDigits? (mantissa.takeWhile (· != '.'))
  let places ← readPlaces (mantissa.dropWhile (· != '.'))
  let power ← readPower (body.dropWhile fun c => !isExponentMark c)
  let x ← readBinary64 (signChars minus ++ whole ++ places ++ power)
  if places.isEmpty && power.isEmpty || x.isInfinite && !x.negative then none
  else return .real x

def readNamed (cs : List Char) : Option Value :=
  let (minus, body) := takeSign cs
  if body = ['i', 'n', 'f'] then some (.real (.infinity minus))
  else if body = ['n', 'a', 'n'] then some (.real .nan)
  else none

def readNumber : List Char → Option Value
  | '0' :: 'x' :: rest => readBase 16 rest
  | '0' :: 'o' :: rest => readBase 8 rest
  | '0' :: 'b' :: rest => readBase 2 rest
  | cs => (readWhole cs).or ((readNamed cs).or (readFraction cs))

end RecordGateway.Toml
