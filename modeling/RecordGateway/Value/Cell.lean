import RecordGateway.Value
/-!
# Stored cells

A relational store keeps nulls, integers, real numbers, texts as bytes, and
blobs. Truth values are stored as integers and a NaN is stored as null; all
else is stored as it is. A text is read back as UTF-8.
-/
namespace RecordGateway

inductive Cell where
  | null
  | integer (i : Int64)
  | real (x : Binary64)
  | text (bytes : Bytes)
  | blob (bytes : Bytes)
deriving DecidableEq, Inhabited

namespace Cell

def ofValue : Value → Cell
  | .null => null
  | .integer i => integer i
  | .real x => real x
  | .text s => text (Bytes.ofText s)
  | .boolean b => integer (if b then 1 else 0)
  | .blob bytes => blob bytes

def toValue : Cell → Value
  | null => .null
  | integer i => .integer i
  | real x => .real x
  | text bytes => .text (Bytes.toText bytes)
  | blob bytes => .blob bytes

/-- A store keeps no NaN. -/
def settle : Cell → Cell
  | real x => if x.isNaN then null else real x
  | cell => cell

def isNull : Cell → Bool
  | null => true
  | _ => false

def rank : Cell → Nat
  | null => 0
  | integer _ => 1
  | real _ => 1
  | text _ => 2
  | blob _ => 3

/-- The numeric value in units of `2 ^ -1074`. -/
def units : Cell → Int
  | integer i => Binary64.unitsOfInt i.toInt
  | real x => x.units
  | _ => 0

def bytes : Cell → Bytes
  | text b => b
  | blob b => b
  | _ => []

/-- The order of cells: by class, then numbers by value and texts and blobs by their bytes. -/
def compare (a b : Cell) : Ordering :=
  (Ord.compare a.rank b.rank).then
    ((Ord.compare a.units b.units).then (Bytes.compare a.bytes b.bytes))

end Cell
end RecordGateway
