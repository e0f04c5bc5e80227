import RecordGateway.Number.Shortest
import RecordGateway.Text.Blank
import RecordGateway.Text.Bytes
/-!
# Values

The dynamically typed values of records, statements and bind lists, their text,
and the quoted literal that stands for a value in SQL.
-/
namespace RecordGateway

inductive Value where
  | null
  | integer (i : Int64)
  | real (x : Binary64)
  | text (s : String)
  | boolean (b : Bool)
  | blob (bytes : Bytes)
deriving DecidableEq, Inhabited

namespace Value

def typeName : Value → String
  | null => "NULL"
  | integer _ => "INTEGER"
  | real _ => "REAL"
  | text _ => "TEXT"
  | boolean _ => "BOOLEAN"
  | blob _ => "BLOB"

def isNull : Value → Bool
  | null => true
  | _ => false

def asInt? : Value → Option Int64
  | integer i => some i
  | _ => none

def asText? : Value → Option String
  | text s => some s
  | _ => none

/-- A boolean, or an integer read as one: every integer except zero is true. -/
def asBool? : Value → Option Bool
  | boolean b => some b
  | integer i => some (i != 0)
  | _ => none

def display : Value → String
  | null => "NULL"
  | integer i => i.toInt.repr
  | real x => x.text
  | text s => s
  | boolean b => if b then "true" else "false"
  | blob bytes => "X'" ++ Bytes.hex bytes ++ "'"

def inQuotes (s : String) : String :=
  String.ofList ('\'' :: (Text.doubled '\'' s.toList ++ ['\'']))

def quotedLiteral : Value → String
  | null => display null
  | blob bytes => display (blob bytes)
  | v => inQuotes v.display

/-- Equality of values in which real numbers compare as numbers: a NaN differs from itself and
the two zeros agree. -/
def agrees : Value → Value → Bool
  | real x, real y => x.agrees y
  | v, w => v == w

end Value
end RecordGateway
