import RecordGateway.Record
/-!
# Models and records

How the rows of a table become models and models become rows again. A mapping
given by columns with types asks each of them of a row and keeps what it read.
-/
namespace RecordGateway

structure Mapping (M : Type) where
  read : Record → Except Failure M
  write : M → Record

namespace Mapping

def identity : Mapping Record := ⟨.ok, id⟩

def readColumns (record : Record) : List (String × ColumnType) → Record → Except Failure Record
  | [], found => .ok found
  | (column, type) :: rest, found =>
    match Record.require record column type with
    | .error e => .error e
    | .ok x => readColumns record rest (found.insert column (type.write x))

def ofColumns (columns : List (String × ColumnType)) : Mapping Record :=
  ⟨fun record => readColumns record columns Keyed.empty, id⟩

end Mapping
end RecordGateway
