import RecordGateway.Store.Truth
/-!
# Tables

The tables of a store with their columns, indexes and rows. A row has an id;
rows are kept in ascending order of their ids. An integer primary key is the id
under a column name; other names of the id serve in every table.
-/
namespace RecordGateway

structure Column where
  name : String
  declared : String
  notNull : Bool
deriving DecidableEq

def Column.affinity (c : Column) : Affinity := .ofDeclared c.declared

structure Row where
  id : Int64
  cells : List Cell
deriving DecidableEq

structure Table where
  name : String
  columns : List Column
  key : Option Nat
  rows : List Row
deriving DecidableEq

structure Index where
  name : String
  table : String
  columns : List String
  unique : Bool
deriving DecidableEq

namespace Row

def place (row : Row) : List Row → List Row
  | [] => [row]
  | r :: rest => if row.id.toInt < r.id.toInt then row :: r :: rest else r :: place row rest

end Row

namespace Table

def position? (t : Table) (name : String) : Option Nat :=
  t.columns.findIdx? fun c => Text.sameName c.name name

def hasDistinctNames (t : Table) : Bool :=
  decide ((t.columns.map fun c => Text.lower c.name).Nodup)

/-- The names under which every table has the id, where no column has the name. -/
def idNames : List String := ["rowid", "oid", "_rowid_"]

def isIdName (name : String) : Bool := idNames.any (Text.sameName name)

def qualified (t : Table) (name : String) : String := t.name ++ "." ++ name

def ownName (t : Table) (name : String) : String :=
  let lead := t.qualified ""
  if Text.sameName (String.ofList (name.toList.take lead.length)) lead then
    String.ofList (name.toList.drop lead.length)
  else name

def names (t : Table) : List String :=
  let own := t.columns.map Column.name ++ idNames
  own ++ own.map t.qualified

def frame (t : Table) (row : Row) : Frame :=
  let own := (t.columns.zip row.cells).map (fun (c, cell) => (c.name, c.affinity, cell)) ++
    idNames.map fun name => (name, .integer, .integer row.id)
  own ++ own.map fun (name, cell) => (t.qualified name, cell)

/-- The table under the name that a statement gives it, if it gives one. -/
def called (t : Table) (renamed : Option String) : Table := { t with name := renamed.getD t.name }

def nextId (t : Table) : Option Int64 :=
  match t.rows.getLast? with
  | none => some 1
  | some last => if last.id.toInt < int64Max then some (last.id + 1) else none

inductive Violation where
  | mismatch
  | notNull (column : String)
  | notUnique (column : String)
  | full
deriving DecidableEq

def mismatchMessage : String := "datatype mismatch"

def Violation.message (table : String) : Violation → String
  | mismatch => mismatchMessage
  | notNull column => "NOT NULL constraint failed: " ++ table ++ "." ++ column
  | notUnique column => "UNIQUE constraint failed: " ++ table ++ "." ++ column
  | full => "database or disk is full"

def settled (t : Table) (cells : List Cell) : List Cell :=
  (t.columns.zip cells).map fun (c, cell) => c.affinity.apply cell

def keyName (t : Table) : String :=
  ((t.key.bind fun i => t.columns[i]?).map Column.name).getD "rowid"

def namesId (t : Table) (name : String) : Bool :=
  match t.position? name with
  | some i => t.key == some i
  | none => isIdName name

def properName? (t : Table) (name : String) : Option String :=
  let name := t.ownName name
  if t.namesId name then some t.keyName
  else (t.columns.find? fun c => Text.sameName c.name name).map Column.name

def missing? (t : Table) (cells : List Cell) : Option String :=
  ((t.columns.zip cells).find? fun (c, cell) => c.notNull && cell.isNull).map fun e => e.1.name

/-- The id that a cell asks for; a null asks for none. -/
def requestedId (cell : Cell) : Except Violation (Option Int64) :=
  match Affinity.integer.apply cell with
  | .null => .ok none
  | .integer i => .ok (some i)
  | _ => .error .mismatch

def withId (t : Table) (id : Int64) (cells : List Cell) : List Cell :=
  match t.key with
  | some i => cells.set i (.integer id)
  | none => cells

def put (t : Table) (id : Int64) (cells : List Cell) : Except Violation Table :=
  match t.missing? cells with
  | some column => .error (.notNull column)
  | none =>
    if t.rows.any fun r => r.id == id then .error (.notUnique t.keyName)
    else .ok { t with rows := Row.place ⟨id, t.withId id cells⟩ t.rows }

/-- Insert a row and give its id: the one that is asked for, or a fresh one. A row that lacks a
cell is refused before the table is found full. -/
def insert (t : Table) (id : Cell) (cells : List Cell) : Except Violation (Int64 × Table) := do
  match (← requestedId id).or t.nextId with
  | some id => return (id, ← t.put id (t.withId id (t.settled cells)))
  | none =>
    match t.missing? (t.settled cells) with
    | some column => throw (.notNull column)
    | none => throw .full

/-- Replace a row; the id asked for keeps the row in place or moves it. -/
def replace (t : Table) (old : Row) (id : Cell) (cells : List Cell) : Except Violation Table := do
  match ← requestedId id with
  | some id =>
    let others := { t with rows := t.rows.filter fun r => r.id != old.id }
    others.put id (t.withId id (t.settled cells))
  | none => throw .mismatch

end Table
end RecordGateway
