import RecordGateway.Number.Approximate
import RecordGateway.Number.Significant
import RecordGateway.Value.Cell
/-!
# Column affinities

The declared type of a column gives the column an affinity, by which stored
cells and cells compared with the column are brought to its class. A column
without a declared type keeps every cell as it is.
-/
namespace RecordGateway

inductive Affinity where
  | blob
  | text
  | integer
  | real
  | numeric
deriving DecidableEq

namespace Affinity

/-- The first of the listed parts that the declared type contains decides. -/
def ofDeclared (declared : String) : Affinity :=
  let has (part : String) : Bool := Text.contains (Text.upper declared) part
  if has "INT" then integer
  else if has "CHAR" || has "CLOB" || has "TEXT" then text
  else if has "BLOB" || declared.isEmpty then blob
  else if has "REAL" || has "FLOA" || has "DOUB" then real
  else numeric

def isNumeric : Affinity → Bool
  | integer => true
  | real => true
  | numeric => true
  | _ => false

def toWhole (x : Binary64) : Cell :=
  let whole := x.units / (pow2 1074 : Int)
  if x.units % (pow2 1074 : Int) = 0 ∧ int64Min < whole ∧ whole < int64Max then
    .integer (Int64.ofInt whole)
  else .real x

def toNumber : Cell → Cell
  | .text bytes =>
    let cs := (Text.trimAscii (Bytes.toText bytes)).toList
    match readInt64 cs with
    | some i => .integer i
    | none =>
      match Decimal.read? cs with
      | some d => toWhole d.nearby
      | none => .text bytes
  | .real x => toWhole x
  | cell => cell

def toText : Cell → Cell
  | .integer i => .text (Bytes.ofText i.toInt.repr)
  | .real x => .text (Bytes.ofText x.significantText)
  | cell => cell

def apply : Affinity → Cell → Cell
  | blob, cell => cell
  | text, cell => toText cell
  | integer, cell => toNumber cell
  | numeric, cell => toNumber cell
  | real, cell =>
    match toNumber cell with
    | .integer i => .real (Binary64.ofInt i.toInt)
    | other => other

/-- The longest start of a text that reads as a number, with a sign, a point and an exponent that
has digits. -/
def numberPart (cs : List Char) : List Char :=
  let signs := (cs.take 1).filter fun c => c == '-' || c == '+'
  let body := cs.drop signs.length
  let whole := body.takeWhile Char.isDigit
  let places := match body.dropWhile Char.isDigit with
    | '.' :: rest => '.' :: rest.takeWhile Char.isDigit
    | _ => []
  let exponent := match body.drop (whole.length + places.length) with
    | e :: rest =>
      let sign := (rest.take 1).filter fun c => c == '-' || c == '+'
      let digits := (rest.drop sign.length).takeWhile Char.isDigit
      if (e = 'e' ∨ e = 'E') ∧ !digits.isEmpty then e :: (sign ++ digits) else []
    | [] => []
  signs ++ whole ++ places ++ exponent

def leadingNumber (bytes : Bytes) : Cell :=
  let cs := numberPart ((Bytes.toText bytes).toList.dropWhile Text.isAsciiBlank)
  match readInt64 cs with
  | some i => .integer i
  | none => (Decimal.read? cs).elim (.integer 0) fun d => .real d.nearby

/-- Zero less the number of a cell; only a null stays null. -/
def negated : Cell → Cell
  | .null => .null
  | .integer i => negatedInteger i
  | .real x => negatedReal x
  | .text bytes => negatedNumber bytes
  | .blob bytes => negatedNumber bytes
where
  negatedInteger (i : Int64) : Cell :=
    if i.toInt = int64Min then .real (Binary64.ofInt (-int64Min)) else .integer (-i)
  negatedReal (x : Binary64) : Cell := .real (if x.units = 0 then Binary64.ofInt 0 else -x)
  negatedNumber (bytes : Bytes) : Cell :=
    match leadingNumber bytes with
    | .integer i => negatedInteger i
    | .real x => negatedReal x
    | cell => cell

/-- What happens to a cell that is compared with a column of the first affinity. -/
def meet (column own : Affinity) (cell : Cell) : Cell :=
  if column.isNumeric && !own.isNumeric then
    match cell with
    | .text _ => toNumber cell
    | _ => cell
  else if column = text ∧ own = blob then toText cell
  else cell

end Affinity
end RecordGateway
