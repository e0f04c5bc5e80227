import RecordGateway.Failure
import RecordGateway.Keyed
import RecordGateway.Predicate
/-!
# Statements

One database operation, independent of any SQL dialect. The kind is set once,
by the first verb, and so is the table. A verb of another kind or a second
table fails and changes nothing.
-/
namespace RecordGateway

inductive JoinKind where
  | left
  | right
  | cross
  | inner
deriving DecidableEq

namespace JoinKind

def text : JoinKind → String
  | left => "LEFT"
  | right => "RIGHT"
  | cross => "CROSS"
  | inner => "INNER"

def ofText (s : String) : Except Failure JoinKind :=
  match Text.upper (Text.trim s) with
  | "LEFT" => .ok left
  | "RIGHT" => .ok right
  | "CROSS" => .ok cross
  | "INNER" => .ok inner
  | _ => .error (.unsupportedJoin s)

end JoinKind

inductive SortOrder where
  | ascending
  | descending
deriving DecidableEq

namespace SortOrder

def text : SortOrder → String
  | ascending => "ASC"
  | descending => "DESC"

def ofText (s : String) : Except Failure SortOrder :=
  match Text.upper (Text.trim s) with
  | "ASC" => .ok ascending
  | "DESC" => .ok descending
  | _ => .error (.invalidSortOrder s)

end SortOrder

inductive JoinConstraint where
  | onPredicate (p : Predicate)
  | usingColumns (columns : List String)
  | unconstrained

structure Join where
  table : String
  kind : JoinKind
  constraint : JoinConstraint

structure Ordered where
  field : String
  direction : SortOrder
deriving DecidableEq

def Ordered.text (o : Ordered) : String := o.field ++ " " ++ o.direction.text

structure Limit where
  offset : UInt64
  length : UInt64
deriving DecidableEq

structure Statement where
  kind : Option Kind
  fields : Keyed String
  columns : List (String × Operand)
  table : Option String
  joins : List Join
  filter : Option Predicate
  having : Option Predicate
  order : List Ordered
  groupBy : List String
  limit : Option Limit
  sets : Keyed Operand
  distinct : Bool
  tooComplicated : Bool

namespace Statement

def empty : Statement :=
  { kind := none, fields := Keyed.empty, columns := [], table := none, joins := []
    filter := none, having := none, order := [], groupBy := [], limit := none
    sets := Keyed.empty, distinct := false, tooComplicated := false }

instance : Inhabited Statement := ⟨empty⟩

/-- A change of a statement in place, which may fail. What it has changed before it fails stays
changed. -/
abbrev Change := ExceptT Failure (StateM Statement) Unit

namespace Change

/-- Why a change failed, if it did, and the statement that it leaves behind. -/
def on (change : Change) (s : Statement) : Except Failure Unit × Statement :=
  (change.run.run s).run

/-- The changed statement of a change that did not fail. -/
def made (change : Change) (s : Statement) : Except Failure Statement :=
  match change.on s with
  | (.ok _, after) => .ok after
  | (.error e, _) => .error e

end Change

def requireKind (kind : Kind) : Change := do
  match (← get).kind with
  | some current => if current = kind then pure () else throw (.kindConflict current kind)
  | none => pure ()

def takeTable (verb : Verb) : Option String → Change
  | none => pure ()
  | some name => do
    match (← get).table with
    | some existing => throw (.tableAlreadySet verb existing)
    | none => modify fun s => { s with table := some name }

def startAs (verb : Verb) (table : Option String) : Change := do
  requireKind verb.kind
  takeTable verb table
  modify fun s => { s with kind := some verb.kind }

/-- Add an expression under an alias; an alias already there takes the new expression in its
place. An expression that mentions DISTINCT marks the statement. -/
def selectAs (expression label : String) : Change := do
  startAs .select none
  modify fun s => { s with
    distinct := s.distinct || Text.contains (Text.lower expression) "distinct" }
  modify fun s => { s with fields := s.fields.insert label expression }

def select (expression : String) : Change := selectAs expression expression

def source (table : String) : Change := startAs .source table
def insertInto (table : String) : Change := startAs .insertInto table
def update (table : String) : Change := startAs .update table
def deleteFrom (table : String) : Change := startAs .deleteFrom table
def showTables (pattern : Option String) : Change := startAs .showTables pattern
def showColumns (table : String) : Change := startAs .showColumns table
def showIndexes (table : String) : Change := startAs .showIndexes table

/-- Add a column of an insert; names may repeat. -/
def column (s : Statement) (name : String) (operand : Operand) : Statement :=
  { s with columns := s.columns ++ [(name, operand)] }

def set (s : Statement) (field : String) (operand : Operand) : Statement :=
  { s with sets := s.sets.insert field operand }

def restrict (s : Statement) (p : Predicate) : Statement := { s with filter := some p }
def restrictGroups (s : Statement) (p : Predicate) : Statement := { s with having := some p }

def join (s : Statement) (table : String) (kind : JoinKind) (constraint : JoinConstraint) :
    Statement :=
  { s with joins := s.joins ++ [⟨table, kind, constraint⟩] }

def maxBound : Int := 18446744073709551615

/-- The bounds have to fit 64 unsigned bits. -/
def limitTo (offset length : Int) : Change :=
  if (0 ≤ offset ∧ offset ≤ maxBound) ∧ 0 ≤ length ∧ length ≤ maxBound then
    modify fun s => { s with
      limit := some ⟨UInt64.ofNat offset.toNat, UInt64.ofNat length.toNat⟩ }
  else throw (.invalidLimit offset length)

def orderBy (s : Statement) (field : String) (direction : SortOrder) : Statement :=
  { s with order := s.order ++ [⟨field, direction⟩] }

def groupOn (s : Statement) (field : String) : Statement :=
  { s with groupBy := s.groupBy ++ [field] }

def markDistinct (s : Statement) : Statement := { s with distinct := true }
def markTooComplicated (s : Statement) : Statement := { s with tooComplicated := true }

def addToFilter? (s : Statement) (part : Predicate) : Option Statement :=
  (s.filter.bind fun root => root.add? part).map s.restrict

def requireTable (s : Statement) : Except Failure String :=
  match s.table with
  | some table => .ok table
  | none => .error .missingTable

def requireLimit (s : Statement) : Except Failure Limit :=
  match s.limit with
  | some limit => .ok limit
  | none => .error .missingLimit

end Statement

namespace JoinConstraint

def agrees : JoinConstraint → JoinConstraint → Bool
  | onPredicate p, onPredicate q => p.agrees q
  | usingColumns a, usingColumns b => a == b
  | unconstrained, unconstrained => true
  | _, _ => false

end JoinConstraint

namespace Statement

private def optionsAgree (a b : Option Predicate) : Bool :=
  match a, b with
  | some p, some q => p.agrees q
  | none, none => true
  | _, _ => false

/-- Equality of statements in which values agree as numbers do. -/
def agrees (a b : Statement) : Bool :=
  a.kind == b.kind && a.fields == b.fields && a.table == b.table && a.order == b.order &&
  a.groupBy == b.groupBy && a.limit == b.limit && a.distinct == b.distinct &&
  a.tooComplicated == b.tooComplicated && entriesAgree Operand.agrees a.columns b.columns &&
  entriesAgree Operand.agrees a.sets.entries b.sets.entries &&
  optionsAgree a.filter b.filter && optionsAgree a.having b.having &&
  listsAgree
    (fun j k => j.table == k.table && j.kind == k.kind && j.constraint.agrees k.constraint)
    a.joins b.joins

end Statement
end RecordGateway
