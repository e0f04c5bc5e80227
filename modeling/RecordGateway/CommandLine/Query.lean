import RecordGateway.Number.Decimal
import RecordGateway.Statement
/-!
# Query arguments

The small languages of the command line: filters `FIELD:RELATION:VALUE`,
orderings `FIELD` or `FIELD:DIRECTION`, and windows `OFFSET,LENGTH`, and the
statement that a command stands for.
-/
namespace RecordGateway.CommandLine

inductive Command where
  | tables (pattern : Option String)
  | columns (table : String) (like : Option String)
  | indexes (table : String)
  | select (table : String) (filters : List String) (order : List String)
      (limit : Option String) (printOnly : Bool)
deriving DecidableEq

inductive ArgumentError where
  | invalidFilter (text : String)
  | invalidOrder (direction : String)
  | invalidWindow (text : String)
  | refused (e : Failure)
deriving DecidableEq

def ArgumentError.message : ArgumentError → String
  | invalidFilter text => "invalid filter '" ++ text ++ "', expected FIELD:RELATION:VALUE"
  | invalidOrder direction => (Failure.invalidSortOrder direction).message
  | invalidWindow text => "invalid limit '" ++ text ++ "', expected OFFSET,LENGTH"
  | refused e => e.message

/-- The value of a filter: an integer if it reads as one, else a text. -/
def filterValue (s : String) : Value :=
  match readInt64 s.toList with
  | some i => .integer i
  | none => .text s

/-- The value may hold further colons; field and relation must not be empty. -/
def readFilter (s : String) : Except ArgumentError Condition :=
  match Text.cut ':' s with
  | none => .error (.invalidFilter s)
  | some (field, rest) =>
    match Text.cut ':' rest with
    | none => .error (.invalidFilter s)
    | some (relation, value) =>
      if field.isEmpty || relation.isEmpty then .error (.invalidFilter s)
      else .ok (.quoted field relation (filterValue value))

def readOrder (s : String) : Except ArgumentError Ordered :=
  match Text.cut ':' s with
  | none => .ok ⟨s, .ascending⟩
  | some (field, direction) =>
    match SortOrder.ofText direction with
    | .ok order => .ok ⟨field, order⟩
    | .error _ => .error (.invalidOrder direction)

/-- Two signed integers around the first comma, with white space around them. -/
def readWindow (s : String) : Except ArgumentError (Int64 × Int64) :=
  match Text.cut ',' s with
  | none => .error (.invalidWindow s)
  | some (offset, length) =>
    match readInt64 (Text.trim offset).toList, readInt64 (Text.trim length).toList with
    | some o, some l => .ok (o, l)
    | _, _ => .error (.invalidWindow s)

def lift {α : Type} : Except Failure α → Except ArgumentError α
  | .ok x => .ok x
  | .error e => .error (.refused e)

def readAll {α : Type} (read : String → Except ArgumentError α) :
    List String → Except ArgumentError (List α)
  | [] => .ok []
  | s :: rest =>
    match read s with
    | .error e => .error e
    | .ok x => (readAll read rest).map (x :: ·)

/-- The filters become one AND group; then come the orderings and at last the window. -/
def selectStatement (table : String) (filters order : List String) (limit : Option String) :
    Except ArgumentError Statement := do
  let s ← lift ((Statement.source table).made .empty)
  let conditions ← readAll readFilter filters
  let s := if filters.isEmpty then s else s.restrict (.all (conditions.map .condition))
  let orderings ← readAll readOrder order
  let s := orderings.foldl (fun s o => s.orderBy o.field o.direction) s
  match limit with
  | none => return s
  | some window =>
    let (offset, length) ← readWindow window
    lift ((Statement.limitTo offset.toInt length.toInt).made s)

def Command.statement : Command → Except ArgumentError Statement
  | tables pattern => lift ((Statement.showTables pattern).made .empty)
  | columns table like => do
    let s ← lift ((Statement.showColumns table).made .empty)
    match like with
    | none => return s
    | some pattern => return s.restrict (.condition (.quoted "Field" "LIKE" (.text pattern)))
  | indexes table => lift ((Statement.showIndexes table).made .empty)
  | select table filters order limit _ => selectStatement table filters order limit

def Command.printOnly : Command → Bool
  | select _ _ _ _ printOnly => printOnly
  | _ => false

end RecordGateway.CommandLine
