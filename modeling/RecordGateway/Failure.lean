import RecordGateway.Statement.Kind
/-!
# Failures

Everything that can go wrong between building a statement and reading its
rows, by cause, and the message of each cause.
-/
namespace RecordGateway

inductive Operation where
  | findAll
  | findOne
  | findCustom
  | create
  | update
  | delete
deriving DecidableEq

def Operation.text : Operation → String
  | findAll => "find_all"
  | findOne => "find_one"
  | findCustom => "find_custom"
  | create => "create"
  | update => "update"
  | delete => "delete"

inductive Failure where
  | kindConflict (current requested : Kind)
  | tableAlreadySet (verb : Verb) (table : String)
  | missingTable
  | missingLimit
  | invalidLimit (offset length : Int)
  | unrecognizedStatement
  | unsupportedJoin (text : String)
  | invalidSortOrder (text : String)
  | emptyAssignment (kind : Kind)
  /-- The driver refused a statement, given with its literals written in. -/
  | driver (cause sql : String)
  /-- Running a statement failed; the text of its bind list is given. -/
  | execution (sql binds cause : String)
  | gateway (operation : Operation) (source : Failure)
  | columnNotFound (column : String)
  | typeMismatch (column expected found : String)
  | configuration
  | connection
deriving DecidableEq

namespace Failure

def message : Failure → String
  | kindConflict current requested =>
    "Statement is already a " ++ current.text ++ " statement, cannot use it as " ++ requested.text
  | tableAlreadySet verb table =>
    "Statement." ++ verb.text ++ "(): target table is already set to '" ++ table ++ "'"
  | missingTable => "No source defined"
  | missingLimit => "Retrieving non-existent limit"
  | invalidLimit offset length =>
    "Invalid limit parameters: offset " ++ offset.repr ++ ", length " ++ length.repr
  | unrecognizedStatement => "Unrecognized statement type"
  | unsupportedJoin text => "Unsupported join type '" ++ text ++ "'"
  | invalidSortOrder text => "Unsupported sort direction '" ++ text ++ "'"
  | emptyAssignment kind => kind.text ++ " statement has nothing to assign"
  | driver cause sql => "Database error: \"" ++ cause ++ "\" during " ++ sql
  | execution sql binds cause =>
    "Couldn't execute statement " ++ sql ++ " with [" ++ binds ++ "]: " ++ cause
  | gateway operation source => "TableDataGateway." ++ operation.text ++ ": " ++ source.message
  | columnNotFound column => "Column '" ++ column ++ "' not found in record"
  | typeMismatch column expected found =>
    "Column '" ++ column ++ "' holds " ++ found ++ ", expected " ++ expected
  | configuration => "Configuration error"
  | connection => "Connection error"

end Failure
end RecordGateway
