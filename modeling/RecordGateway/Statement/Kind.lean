/-!
# Statement kinds

The seven kinds of statement and the builder verbs that decide them.
-/
namespace RecordGateway

inductive Kind where
  | select
  | insert
  | update
  | delete
  | showTables
  | showColumns
  | showIndexes
deriving DecidableEq

def Kind.text : Kind → String
  | select => "SELECT"
  | insert => "INSERT"
  | update => "UPDATE"
  | delete => "DELETE"
  | showTables => "SHOW TABLES"
  | showColumns => "SHOW COLUMNS"
  | showIndexes => "SHOW INDEXES"

/-- The builder calls that decide a kind. `source` names the table of a select. -/
inductive Verb where
  | select
  | source
  | insertInto
  | update
  | deleteFrom
  | showTables
  | showColumns
  | showIndexes
deriving DecidableEq

namespace Verb

def kind : Verb → Kind
  | select => .select
  | source => .select
  | insertInto => .insert
  | update => .update
  | deleteFrom => .delete
  | showTables => .showTables
  | showColumns => .showColumns
  | showIndexes => .showIndexes

def text : Verb → String
  | select => "select"
  | source => "from"
  | insertInto => "insert_into"
  | update => "update"
  | deleteFrom => "delete_from"
  | showTables => "show_tables"
  | showColumns => "show_columns"
  | showIndexes => "show_indexes"

end Verb
end RecordGateway
