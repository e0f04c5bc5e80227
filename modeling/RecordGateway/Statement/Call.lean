import RecordGateway.Statement
/-!
# Builder calls

The calls that fill a statement, as data. A call changes the statement in
place, and may fail.
-/
namespace RecordGateway

inductive Call where
  | select (expression : String)
  | selectAs (expression label : String)
  | source (table : String)
  | insertInto (table : String)
  | update (table : String)
  | deleteFrom (table : String)
  | showTables (pattern : Option String)
  | showColumns (table : String)
  | showIndexes (table : String)
  | column (name : String) (operand : Operand)
  | set (field : String) (operand : Operand)
  | restrict (p : Predicate)
  | restrictGroups (p : Predicate)
  | join (table : String) (kind : JoinKind) (constraint : JoinConstraint)
  | limitTo (offset length : Int)
  | orderBy (field : String) (direction : SortOrder)
  | groupOn (field : String)
  | markDistinct
  | markTooComplicated

namespace Call

def apply : Call → Statement.Change
  | select e => Statement.select e
  | selectAs e a => Statement.selectAs e a
  | source t => Statement.source t
  | insertInto t => Statement.insertInto t
  | update t => Statement.update t
  | deleteFrom t => Statement.deleteFrom t
  | showTables p => Statement.showTables p
  | showColumns t => Statement.showColumns t
  | showIndexes t => Statement.showIndexes t
  | column n o => modify fun s => s.column n o
  | set f o => modify fun s => s.set f o
  | restrict p => modify fun s => s.restrict p
  | restrictGroups p => modify fun s => s.restrictGroups p
  | join t k c => modify fun s => s.join t k c
  | limitTo o l => Statement.limitTo o l
  | orderBy f d => modify fun s => s.orderBy f d
  | groupOn f => modify fun s => s.groupOn f
  | markDistinct => modify fun s => s.markDistinct
  | markTooComplicated => modify fun s => s.markTooComplicated

def outcome (s : Statement) (call : Call) : Except Failure Unit := (call.apply.on s).1

def after (s : Statement) (call : Call) : Statement := (call.apply.on s).2

/-- The statement after a sequence of calls on an empty one, failing calls included. -/
def run (calls : List Call) : Statement := calls.foldl after .empty

end Call
end RecordGateway
