import RecordGateway.Number.Decimal
import RecordGateway.Value
/-!
# Typed columns

The types that a model may ask of a column. A type says which values it can be
read from, what it reads, and which value is written for what was read.
-/
namespace RecordGateway

inductive ColumnType where
  | int64
  | int32
  | real
  | boolean
  | text
  | blob
  | optional (inner : ColumnType)
deriving DecidableEq

namespace ColumnType

abbrev Carrier : ColumnType → Type
  | int64 => Int64
  | int32 => Int32
  | real => Binary64
  | boolean => Bool
  | text => String
  | blob => Bytes
  | optional inner => Option inner.Carrier

def expected : ColumnType → String
  | int64 => "INTEGER"
  | int32 => "INTEGER"
  | real => "REAL"
  | boolean => "BOOLEAN"
  | text => "TEXT"
  | blob => "BLOB"
  | optional inner => inner.expected

def narrow (i : Int64) : Option Int32 :=
  if -2147483648 ≤ i.toInt ∧ i.toInt ≤ 2147483647 then some (Int32.ofInt i.toInt) else none

/-- Read a value as the type. Integers are also real numbers and truth values, and null is
read by optional types only. -/
def read? : (t : ColumnType) → Value → Option t.Carrier
  | int64, v => v.asInt?
  | int32, v => v.asInt?.bind narrow
  | real, .real x => some x
  | real, .integer i => some (Binary64.ofInt i.toInt)
  | real, _ => none
  | boolean, v => v.asBool?
  | text, v => v.asText?
  | blob, .blob bytes => some bytes
  | blob, _ => none
  | optional _, .null => some none
  | optional inner, v => (inner.read? v).map some

def write : (t : ColumnType) → t.Carrier → Value
  | int64, i => .integer i
  | int32, i => .integer i.toInt64
  | real, x => .real x
  | boolean, b => .boolean b
  | text, s => .text s
  | blob, bytes => .blob bytes
  | optional _, none => .null
  | optional inner, some x => inner.write x

end ColumnType

def Value.ofUInt32 (n : UInt32) : Value := .integer (Int64.ofNat n.toNat)

end RecordGateway
