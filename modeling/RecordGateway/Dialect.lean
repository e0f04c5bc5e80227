import RecordGateway.Dialect.Identifier
import RecordGateway.Statement
/-!
# Dialects

The rendering of statements. Selects, inserts, updates and deletes are common
to both dialects. The SHOW statements exist in MySQL only; for SQLite they
become queries of its catalog under the column names that MySQL uses.
-/
namespace RecordGateway

inductive Dialect where
  | mysql
  | sqlite
deriving DecidableEq, Inhabited

structure Compiled where
  sql : String
  parameters : List (String × Value)
deriving DecidableEq

namespace Statement

/-- The select list; an expression that is its own alias is written once. -/
def fieldTemplate (s : Statement) : Template :=
  if s.fields.isEmpty then [.text "*"]
  else List.intercalate [.text ", "] (s.fields.entries.map fun (label, expression) =>
    if label = expression then [.term expression]
    else [.term expression, .text (" AS " ++ label)])

def constraintTemplate : JoinConstraint → Template
  | .onPredicate p => .text " ON " :: p.template
  | .usingColumns columns => [.text (" USING (" ++ String.intercalate ", " columns ++ ")")]
  | .unconstrained => []

def joinTemplate (s : Statement) : Template :=
  s.joins.flatMap fun j =>
    .text (" " ++ j.kind.text ++ " JOIN " ++ j.table) :: constraintTemplate j.constraint

def clause (keyword : String) (root : Option Predicate) : Template :=
  match root with
  | none => []
  | some p => if p.template.isEmpty then [] else .text (" " ++ keyword ++ " ") :: p.template

def filterTemplate (s : Statement) : Template := clause "WHERE" s.filter

def groupTemplate (s : Statement) : Template :=
  if s.groupBy.isEmpty then [] else [.text (" GROUP BY " ++ String.intercalate "," s.groupBy)]

def orderTemplate (s : Statement) : Template :=
  if s.order.isEmpty then []
  else .text " ORDER BY " :: List.intercalate [.text ", "] (s.order.map fun o =>
    [.term o.field, .text (" " ++ o.direction.text)])

def limitTemplate (s : Statement) : Template :=
  match s.limit with
  | none => []
  | some limit => [.text (" LIMIT " ++ limit.offset.toNat.repr ++ "," ++ limit.length.toNat.repr)]

def selectTemplate (s : Statement) : Except Failure Template := do
  let table ← s.requireTable
  return .text "SELECT " :: s.fieldTemplate ++ .text (" FROM " ++ table) :: s.joinTemplate ++
    s.filterTemplate ++ s.groupTemplate ++ clause "HAVING" s.having ++ s.orderTemplate ++
    s.limitTemplate

def insertTemplate (s : Statement) : Except Failure Template := do
  let table ← s.requireTable
  if s.columns.isEmpty then throw (.emptyAssignment .insert)
  let names := String.intercalate "," (s.columns.map fun c => quoteIdentifier c.1)
  return .text ("INSERT INTO " ++ table ++ " (" ++ names ++ ") VALUES (") ::
    List.intercalate [.text ","] (s.columns.map fun c => c.2.template) ++ [.text ")"]

def updateTemplate (s : Statement) : Except Failure Template := do
  let table ← s.requireTable
  if s.sets.isEmpty then throw (.emptyAssignment .update)
  return .text ("UPDATE " ++ table ++ " SET ") ::
    List.intercalate [.text ", "] (s.sets.entries.map fun (field, operand) =>
      .text (quoteIdentifier field ++ " = ") :: operand.template) ++ s.filterTemplate

def deleteTemplate (s : Statement) : Except Failure Template := do
  let table ← s.requireTable
  return .text ("DELETE FROM " ++ table) :: s.filterTemplate

/-- The table slot of a table listing holds the optional pattern. -/
def tablesTemplate (d : Dialect) (s : Statement) : Template :=
  match d, s.table with
  | .mysql, none => [.text "SHOW FULL TABLES"]
  | .mysql, some pattern => [.text "SHOW FULL TABLES LIKE ", .literal (.text pattern)]
  | .sqlite, pattern =>
    .text ("SELECT name AS Tables_in_main, type AS Table_type FROM sqlite_master " ++
      "WHERE type IN ('table', 'view') AND name NOT LIKE 'sqlite_%'") ::
    (match pattern with
      | none => []
      | some p => [.text " AND name LIKE ", .literal (.text p)]) ++
    [.text " ORDER BY name"]

def columnsTemplate (d : Dialect) (s : Statement) : Except Failure Template := do
  let table ← s.requireTable
  match d with
  | .mysql => return .text ("SHOW FULL COLUMNS FROM " ++ table) :: s.filterTemplate
  | .sqlite =>
    return .text ("SELECT * FROM (SELECT name AS Field, type AS Type, " ++
        "CASE \"notnull\" WHEN 0 THEN 'YES' ELSE 'NO' END AS \"Null\", " ++
        "dflt_value AS \"Default\", CASE pk WHEN 0 THEN '' ELSE 'PRI' END AS \"Key\" " ++
        "FROM pragma_table_info(") ::
      .literal (.text table) :: .text "))" :: s.filterTemplate

def indexesTemplate (d : Dialect) (s : Statement) : Except Failure Template := do
  let table ← s.requireTable
  match d with
  | .mysql => return .text ("SHOW INDEX FROM " ++ table) :: s.filterTemplate
  | .sqlite =>
    return .text ("SELECT * FROM (SELECT il.name AS Key_name, " ++
        "CASE il.\"unique\" WHEN 1 THEN 0 ELSE 1 END AS Non_unique, " ++
        "ii.seqno + 1 AS Seq_in_index, ii.name AS Column_name " ++
        "FROM pragma_index_list(") ::
      .literal (.text table) ::
      .text ") AS il, pragma_index_info(il.name) AS ii)" :: s.filterTemplate ++
      [.text " ORDER BY Key_name, Seq_in_index"]

def template (d : Dialect) (s : Statement) : Except Failure Template :=
  match s.kind with
  | some .select => s.selectTemplate
  | some .insert => s.insertTemplate
  | some .update => s.updateTemplate
  | some .delete => s.deleteTemplate
  | some .showTables => .ok (s.tablesTemplate d)
  | some .showColumns => s.columnsTemplate d
  | some .showIndexes => s.indexesTemplate d
  | none => .error .unrecognizedStatement

def evaluate (d : Dialect) (s : Statement) : Except Failure String :=
  (s.template d).map Template.inline

def compile (d : Dialect) (s : Statement) : Except Failure Compiled :=
  (s.template d).map fun t => ⟨t.numbered, t.parameters⟩

def refused (d : Dialect) (s : Statement) (cause : String) : Failure :=
  match s.evaluate d with
  | .ok sql => .driver cause sql
  | .error e => .driver cause ("<unrenderable statement: " ++ e.message ++ ">")

end Statement
end RecordGateway
