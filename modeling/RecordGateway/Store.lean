import RecordGateway.Connection
import RecordGateway.Store.Refusal
import RecordGateway.Store.Schema
/-!
# The relational store

Tables in memory with the statements of the SQLite dialect on them: selections
from one table, inserts, updates, deletes, and the catalog queries. Preparing a
statement compiles it and reads the text; of the statement itself nothing else is
used. Running it takes the values of its parameters. A statement that fails leaves the
tables as they were; of a write that fails the count of changed rows is zero.
-/
namespace RecordGateway

structure Store where
  tables : List Table
  indexes : List Index
  lastRowId : Int64
  changes : Nat
deriving DecidableEq

namespace Store

def empty : Store := ⟨[], [], 0, 0⟩

instance : Inhabited Store := ⟨empty⟩

def table? (store : Store) (name : String) : Option Table :=
  store.tables.find? fun t => Text.sameName t.name name

def withTable (store : Store) (t : Table) : Store :=
  { store with tables := store.tables.map fun old =>
      if Text.sameName old.name t.name then t else old }

/-! ## Definitions -/

def define (store : Store) : Schema.Definition → Option Store
  | .table ifMissing t =>
    match store.table? t.name with
    | none => if t.hasDistinctNames then some { store with tables := store.tables ++ [t] } else none
    | some _ => if ifMissing then some store else none
  | .index ifMissing i =>
    if store.indexes.any fun old => Text.sameName old.name i.name then
      if ifMissing then some store else none
    else
      match store.table? i.table with
      | none => none
      | some t =>
        if i.columns.all fun c => (t.position? c).isSome then
          some { store with indexes := store.indexes ++ [i] }
        else none

def runScript (store : Store) (script : String) : Except Failure Store :=
  match (Schema.readScript script).bind fun definitions => definitions.foldlM define store with
  | some defined => .ok defined
  | none => .error .connection

/-! ## The catalog -/

def textCell (s : String) : Cell := .text (Bytes.ofText s)

def listTables (store : Store) (pattern : Option Cell) : List Frame :=
  let listed := store.tables.filter fun t =>
    !Relation.fits "sqlite_%".toList t.name.toList &&
      match pattern with
      | none => true
      | some p => Relation.likeTruth (textCell t.name) p == .yes
  let sorted := listed.mergeSort fun a b =>
    Bytes.compare (Bytes.ofText a.name) (Bytes.ofText b.name) != .gt
  sorted.map fun t =>
    [("Tables_in_main", .blob, textCell t.name), ("Table_type", .blob, textCell "table")]

def columnFrame (t : Table) (c : Column) (position : Nat) : Frame :=
  [("Field", .blob, textCell c.name), ("Type", .blob, textCell c.declared),
   ("Null", .blob, textCell (if c.notNull then "NO" else "YES")), ("Default", .blob, .null),
   ("Key", .blob, textCell (if t.key = some position then "PRI" else ""))]

def catalogTables : List String :=
  ["sqlite_master", "sqlite_schema", "sqlite_temp_master", "sqlite_temp_schema"]

def catalogTable (name : String) : Table :=
  ⟨name, [⟨"type", "TEXT", false⟩, ⟨"name", "TEXT", false⟩, ⟨"tbl_name", "TEXT", false⟩,
    ⟨"rootpage", "INT", false⟩, ⟨"sql", "TEXT", false⟩], none, []⟩

def listColumns (store : Store) (name : String) : List Frame :=
  let listed := (store.table? name).or
    (if catalogTables.any (Text.sameName name) then some (catalogTable name) else none)
  match listed with
  | none => []
  | some t => t.columns.zipIdx.map fun (c, position) => columnFrame t c position

def indexFrames (i : Index) : List Frame :=
  i.columns.zipIdx.map fun (column, position) =>
    [("Key_name", .blob, textCell i.name),
     ("Non_unique", .blob, .integer (if i.unique then 0 else 1)),
     ("Seq_in_index", .blob, .integer (Int64.ofNat (position + 1))),
     ("Column_name", .blob, textCell column)]

def listIndexes (store : Store) (name : String) : List Frame :=
  ((store.indexes.filter fun i => Text.sameName i.table name).mergeSort fun a b =>
    Bytes.compare (Bytes.ofText a.name) (Bytes.ofText b.name) != .gt).flatMap indexFrames

def columnNames : List String := ["Field", "Type", "Null", "Default", "Key"]

def indexNames : List String := ["Key_name", "Non_unique", "Seq_in_index", "Column_name"]

def termCell (parameters : Assignment) (text : String) : Cell := (evalText parameters [] text).2

/-- The text of a term, by which a catalog query names its table. -/
def termText (parameters : Assignment) (text : String) : String :=
  String.ofList (Relation.cellText (termCell parameters text))

def frameRecord (frame : Frame) : Record :=
  Keyed.ofList (frame.map fun (name, _, cell) => (name, cell.toValue))

/-- Whether the pattern of a table listing is too long to be matched against the tables. -/
def isTooComplex (store : Store) (pattern : Option Cell) : Bool :=
  pattern.any (fun p => 50000 < p.bytes.length) && !(store.listTables none).isEmpty

/-! ## Writes -/

/-- The cells of terms under the names of columns. -/
def termCells (parameters : Assignment) (frame : Frame) (given : List (String × String)) :
    List (String × Cell) :=
  given.map fun e => (e.1, (evalText parameters frame e.2).2)

def firstCell (given : List (String × Cell)) (name : String) : Option Cell :=
  (given.find? fun e => Text.sameName e.1 name).map Prod.snd

def lastCell (given : List (String × Cell)) (name : String) : Option Cell :=
  firstCell given.reverse name

def idCell (t : Table) (given : List (String × Cell)) : Option Cell :=
  (given.reverse.find? fun e => t.namesId e.1).map Prod.snd

/-- Of several cells given for one column the first counts, but for the id the last. -/
def insert (t : Table) (parameters : Assignment) (columns values : List String) :
    Except Table.Violation (Int64 × Table) :=
  let given := termCells parameters [] (columns.zip values)
  t.insert ((idCell t given).getD .null)
    (t.columns.map fun c => (firstCell given c.name).getD .null)

/-- Whether a filter lets a row of a table pass. -/
def meets (t : Table) (parameters : Assignment) (filter : Option Predicate) (row : Row) : Bool :=
  passes parameters filter (t.frame row)

/-- A row with the assignments made, of which the last to a column counts. -/
def assign (parameters : Assignment) (sets : List (String × String)) (t : Table) (row : Row) :
    Except Table.Violation Table :=
  let given := termCells parameters (t.frame row) sets
  t.replace row ((idCell t given).getD (.integer row.id))
    ((t.columns.zip row.cells).map fun (c, old) => (lastCell given c.name).getD old)

/-- Replace the rows that the filter lets pass one after another; the first violation ends it
all. -/
def update (t : Table) (parameters : Assignment) (sets : List (String × String))
    (filter : Option Predicate) : Except Table.Violation (Nat × Table) :=
  let rows := t.rows.filter (meets t parameters filter)
  (rows.foldlM (assign parameters sets) t).map fun changed => (rows.length, changed)

def delete (t : Table) (parameters : Assignment) (filter : Option Predicate) : Nat × Table :=
  let (gone, left) := t.rows.partition (meets t parameters filter)
  (gone.length, { t with rows := left })

/-! ## Preparing -/

structure Handle where
  compiled : Compiled
  query : Query

def missing (name : String) : String := "no such table: " ++ name

/-- Why a query is refused that was read in a text. -/
def refusal (store : Store) (sql : String) : Query → Option String
  | .select name renamed q =>
    match store.table? name with
    | none => some (missing name)
    | some t => Refusal.unknownColumn sql (Refusal.selectionScope (t.called renamed) q)
  | .insert name columns values =>
    match store.table? name with
    | none => some (missing name)
    | some t => Refusal.ofInsert t sql name columns values
  | .update name sets _ =>
    match store.table? name with
    | none => some (missing name)
    | some t => Refusal.ofUpdate t sql sets
  | .delete name _ =>
    match store.table? name with
    | none => some (missing name)
    | some t => Refusal.unknownColumn sql (Refusal.known t.names)
  | .tables _ => none
  | .columns _ _ => Refusal.unknownColumn sql (Refusal.known columnNames)
  | .indexes _ _ => Refusal.unknownColumn sql (Refusal.known indexNames)

/-- Read a text as a query that the store can carry out. -/
def understand (store : Store) (sql : String) : Except String Query :=
  match Query.read .all sql with
  | .error left => .error (Refusal.notUnderstood sql left)
  | .ok query =>
    match (Refusal.tooDeep query).or (store.refusal sql query) with
    | some cause => .error cause
    | none => .ok query

def prepare (s : Statement) (store : Store) : Except Failure Handle × Store :=
  match s.compile .sqlite with
  | .error e => (.error e, store)
  | .ok compiled =>
    match store.understand compiled.sql with
    | .error cause => (.error (s.refused .sqlite cause), store)
    | .ok query => (.ok ⟨compiled, query⟩, store)

/-! ## Running -/

def bindings (handle : Handle) (binds : Binds) : Assignment :=
  handle.compiled.parameters ++ binds.entries

/-- The report of a failed run lists every bound name once. -/
def failure (handle : Handle) (binds : Binds) (cause : String) : Failure :=
  .execution handle.compiled.sql
    ((Binds.ofList handle.compiled.parameters).extend binds.entries).display cause

def indexesOf (store : Store) (t : Table) : List Index :=
  store.indexes.filter fun i => Text.sameName i.table t.name

def written (store : Store) (t : Table) (outcome : Except Table.Violation Store) :
    Except String (List Record) × Store :=
  match outcome with
  | .ok after => (.ok [], after)
  | .error violation => (.error (violation.message t.name), { store with changes := 0 })

/-- Carry out a query of a table that is there. -/
def onTable (store : Store) (name : String)
    (use : Table → Except String (List Record) × Store) : Except String (List Record) × Store :=
  match store.table? name with
  | some t => use t
  | none => (.error (missing name), store)

def answered (store : Store) (frames : List Frame) : Except String (List Record) × Store :=
  (.ok (frames.map frameRecord), store)

def perform (store : Store) (parameters : Assignment) :
    Query → Except String (List Record) × Store
  | .select name renamed q => store.onTable name fun t =>
    if Selection.fitsWindow q.window then
      (.ok (Selection.records (t.called renamed) (store.indexesOf t) parameters q), store)
    else (.error Table.mismatchMessage, store)
  | .insert name columns values => store.onTable name fun t =>
    store.written t ((insert t parameters columns values).map fun (id, t') =>
      { store.withTable t' with lastRowId := id, changes := 1 })
  | .update name sets filter => store.onTable name fun t =>
    store.written t ((update t parameters sets filter).map fun (count, t') =>
      { store.withTable t' with changes := count })
  | .delete name filter => store.onTable name fun t =>
    let (count, t') := delete t parameters filter
    (.ok [], { store.withTable t' with changes := count })
  | .tables pattern =>
    let cell := pattern.map (termCell parameters)
    if store.isTooComplex cell then (.error "LIKE or GLOB pattern too complex", store)
    else store.answered (store.listTables cell)
  | .columns table filter =>
    store.answered ((store.listColumns (termText parameters table)).filter
    (passes parameters filter))
  | .indexes table filter =>
    store.answered ((store.listIndexes (termText parameters table)).filter
    (passes parameters filter))

/-- Run a prepared statement. Every bound name has to be a parameter of the statement. -/
def run (handle : Handle) (binds : Binds) (store : Store) :
    Except Failure (List Record) × Store :=
  let parameters := bindings handle binds
  match parameters.find? fun e => !handle.query.parameterNames.contains e.1 with
  | some (name, _) => (.error (failure handle binds ("Invalid parameter name: " ++ name)), store)
  | none =>
    let (outcome, after) := store.perform parameters handle.query
    (outcome.mapError (failure handle binds), after)

def execute (handle : Handle) (binds : Binds) (store : Store) : Except Failure Nat × Store :=
  match run handle binds store with
  | (.error e, after) => (.error e, after)
  | (.ok [], after) => (.ok after.changes, after)
  | (.ok (_ :: _), after) =>
    (.error (failure handle binds "Execute returned results - did you mean to call query?"), after)

def connection : Connection Store Handle where
  dialect := .sqlite
  prepare := prepare
  sql handle := handle.compiled.sql
  execute := execute
  fetch := run
  lastInsertId := lastRowId

end Store
end RecordGateway
