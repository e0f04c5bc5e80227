import RecordGateway.Failure
import RecordGateway.Keyed
import RecordGateway.Value.Column
/-!
# Records

A row as columns with values, in the order of the columns, and the typed
reading of one column.
-/
namespace RecordGateway

abbrev Record := Keyed Value

namespace Record

/-- The value of a column read as a type; a missing column and a value of another type are
different failures. -/
def require (record : Record) (column : String) (type : ColumnType) :
    Except Failure type.Carrier :=
  match record.get? column with
  | none => .error (.columnNotFound column)
  | some value =>
    match type.read? value with
    | some x => .ok x
    | none => .error (.typeMismatch column type.expected value.typeName)

def agrees (a b : Record) : Bool :=
  entriesAgree Value.agrees a.entries b.entries

end Record
end RecordGateway
