import RecordGateway.Store.Query
import RecordGateway.Store.Word
/-!
# Reading SQL

The grammar of the statements that the store understands, over the words of a text. AND binds
tighter than OR, and parentheses come first. A reader that fails tells the words that it could
not go on with.
-/
namespace RecordGateway

abbrev Reader := StateT (List Word) (Except (List Word))

/-- The columns that may be named in a select list and in the rest of a statement. -/
structure Scope where
  listed : String → Bool
  known : String → Bool

def Scope.all : Scope := ⟨fun _ => true, fun _ => true⟩

namespace Reader

variable {α : Type}

def refuse : Reader α := fun words => .error words

def next (take : String → Option α) : Reader α
  | [] => .error []
  | word :: rest =>
    match take word.text with
    | some x => .ok (x, rest)
    | none => .error (word :: rest)

def isWord (expected text : String) : Bool := Text.upper text == expected

def word (expected : String) : Reader Unit :=
  next fun text => if isWord expected text then some () else none

/-- Whether a word comes next; if so it is taken. -/
def takes (expected : String) : Reader Bool
  | [] => .ok (false, [])
  | word :: rest =>
    if isWord expected word.text then .ok (true, rest) else .ok (false, word :: rest)

/-- An item with those that stand behind a separator, if there is one. -/
def continued (separator : String) (others : Reader (List α)) (first : α) : Reader (List α) := do
  if ← takes separator then return first :: (← others) else return [first]

/-- One item or more between separators; the number bounds how many. -/
def separated (separator : String) (item : Reader α) : Nat → Reader (List α)
  | 0 => refuse
  | more + 1 => item >>= continued separator (separated separator item more)

def list (separator : String) (item : Reader α) : Reader (List α) := fun words =>
  separated separator item words.length words

/-- Something that a word introduces and that may be left out. -/
def optional (lead : String) (body : Reader α) : Reader (Option α) := do
  if ← takes lead then return some (← body) else return none

/-! ## Terms and conditions -/

def name : Reader String := next Term.readName

/-- The last word of a term: of a name and a name behind a point it is the latter. -/
def qualified (own : Word) : List Word → Word × List Word
  | point :: last :: rest =>
    if point.text = "." ∧ (Term.readName own.text).isSome ∧ (Term.readName last.text).isSome then
      (last, rest)
    else (own, point :: last :: rest)
  | rest => (own, rest)

/-- A term of known columns. A word that starts an expression of its own is out of place only in
what follows it. -/
def term (known : String → Bool) : Reader String := fun words =>
  match words.dropWhile Word.isSign with
  | [] => .error []
  | own :: rest =>
    if (Term.readUnsigned own.text.toList).isNone then
      .error (if Term.opens own.text then rest else own :: rest)
    else
      let (last, left) := qualified own rest
      let text := (words.headD own).upTo last
      match Term.read text with
      | some read => if read.columnName?.all known then .ok (text, left) else .error (own :: rest)
      | none => .error (own :: rest)

def relationWords : List String :=
  ["=", "==", "!=", "<>", "<", "<=", ">", ">=", "IS", "LIKE", "NOT"]

def relation : Reader String := do
  let first ← next fun text => if relationWords.contains (Text.upper text) then some text else none
  match Text.upper first with
  | "IS" =>
    let isNot ← takes "NOT"
    if ← takes "DISTINCT" then
      word "FROM"
      return if isNot then "IS NOT DISTINCT FROM" else "IS DISTINCT FROM"
    else return if isNot then "IS NOT" else first
  | "NOT" =>
    word "LIKE"
    return "NOT LIKE"
  | _ => return first

def condition (known : String → Bool) : Reader Predicate := do
  let left ← term known
  let relation ← relation
  let right ← term known
  return .condition (.verbatim left relation right)

/-- A condition, or what stands between parentheses. -/
def factor (known : String → Bool) (inner : Reader Predicate) : Reader Predicate := do
  if ← takes "(" then
    let inner ← inner
    word ")"
    return inner
  else condition known

def conjunction (factor : Reader Predicate) : Reader Predicate := do
  return .group .and (← list "AND" factor)

/-- One alternative alone is the whole. -/
def anyOf : List Predicate → Predicate
  | [whole] => whole
  | parts => .group .or parts

def disjunction (conjunction : Reader Predicate) : Reader Predicate := do
  return anyOf (← list "OR" conjunction)

/-- The number bounds how deep parentheses may stand in each other. -/
def formula (known : String → Bool) : Nat → Reader Predicate
  | 0 => refuse
  | depth + 1 => disjunction (conjunction (factor known (formula known depth)))

def filter (known : String → Bool) : Reader (Option Predicate) :=
  optional "WHERE" fun words => formula known words.length words

/-! ## Clauses -/

def item (known : String → Bool) : Reader Item := do
  if ← takes "*" then return ⟨"*", none⟩
  else
    let expression ← term known
    return ⟨expression, ← optional "AS" name⟩

/-- The words behind a table that are no other name for it. -/
def joinWords : List String :=
  ["CROSS", "FULL", "INDEXED", "INNER", "LEFT", "NATURAL", "OUTER", "RIGHT"]

def renamed : Reader (Option String) := do
  if ← takes "AS" then return some (← name)
  else fun words =>
    match words with
    | [] => .ok (none, [])
    | word :: rest =>
      match Term.readName word.text with
      | some name =>
        if joinWords.contains (Text.upper word.text) then .ok (none, word :: rest)
        else .ok (some name, rest)
      | none => .ok (none, word :: rest)

def ordered (known : String → Bool) : Reader Ordered := do
  let field ← term known
  if ← takes "DESC" then return ⟨field, .descending⟩
  else
    let _ ← takes "ASC"
    return ⟨field, .ascending⟩

def ordering (known : String → Bool) : Reader (List Ordered) := do
  word "BY"
  list "," (ordered known)

def order (known : String → Bool) : Reader (List Ordered) := do
  return (← optional "ORDER" (ordering known)).getD []

def count : Reader Nat :=
  next fun text => if text.toList.all Char.isDigit then text.toNat? else none

def window : Reader (Option Window) :=
  optional "LIMIT" do
    let first ← count
    if ← takes "," then return ⟨first, ← count⟩ else return ⟨0, first⟩

def assignment (known : String → Bool) : Reader (String × String) := do
  let field ← name
  word "="
  return (field, ← term known)

/-! ## Statements -/

/-- What is selected, from which table, and the other name of the table. -/
def source (listed : String → Bool) : Reader (List Item × String × Option String) := do
  let items ← list "," (item listed)
  word "FROM"
  let table ← name
  return (items, table, ← renamed)

def selection (scope : Scope) : Reader Query := do
  let (items, table, renamed) ← source scope.listed
  let filter ← filter scope.known
  let order ← order scope.known
  return .select table renamed ⟨items, filter, order, ← window⟩

def insertion (known : String → Bool) : Reader Query := do
  word "INTO"
  let table ← name
  word "("
  let columns ← list "," name
  word ")"
  word "VALUES"
  word "("
  let values ← list "," (term known)
  word ")"
  return .insert table columns values

def replacement (known : String → Bool) : Reader Query := do
  let table ← name
  word "SET"
  let sets ← list "," (assignment known)
  return .update table sets (← filter known)

def removal (known : String → Bool) : Reader Query := do
  word "FROM"
  let table ← name
  return .delete table (← filter known)

def verb : Reader String :=
  next fun text =>
    let verb := Text.upper text
    if ["SELECT", "INSERT", "UPDATE", "DELETE"].contains verb then some verb else none

def statement (scope : Scope) : Reader Query := do
  match ← verb with
  | "SELECT" => selection scope
  | "INSERT" => insertion scope.known
  | "UPDATE" => replacement scope.known
  | _ => removal scope.known

/-! ## Queries of the catalog -/

/-- The words of a text, one after another. -/
def phrase (text : String) : Reader Unit :=
  (Word.scan 0 text.toList).forM fun expected =>
    next fun text => if text = expected.text then some () else none

def tables : Reader Query := do
  let pattern ← optional "AND" do
    phrase "name LIKE"
    term fun _ => false
  phrase "ORDER BY name"
  return .tables pattern

def columns (scope : Scope) : Reader Query := do
  let table ← term fun _ => false
  phrase "))"
  return .columns table (← filter scope.known)

def indexes (scope : Scope) : Reader Query := do
  let table ← term fun _ => false
  phrase ") AS il, pragma_index_info(il.name) AS ii)"
  let filter ← filter scope.known
  phrase "ORDER BY Key_name, Seq_in_index"
  return .indexes table filter

/-- The catalog queries, each with the text by which it starts. -/
def catalog (scope : Scope) : List (String × Reader Query) :=
  [("SELECT name AS Tables_in_main, type AS Table_type FROM sqlite_master " ++
      "WHERE type IN ('table', 'view') AND name NOT LIKE 'sqlite_%'", tables),
   ("SELECT * FROM (SELECT name AS Field, type AS Type, " ++
      "CASE \"notnull\" WHEN 0 THEN 'YES' ELSE 'NO' END AS \"Null\", " ++
      "dflt_value AS \"Default\", CASE pk WHEN 0 THEN '' ELSE 'PRI' END AS \"Key\" " ++
      "FROM pragma_table_info(", columns scope),
   ("SELECT * FROM (SELECT il.name AS Key_name, " ++
      "CASE il.\"unique\" WHEN 1 THEN 0 ELSE 1 END AS Non_unique, " ++
      "ii.seqno + 1 AS Seq_in_index, ii.name AS Column_name " ++
      "FROM pragma_index_list(", indexes scope)]

/-- The reader whose text starts the words, or else the other one. -/
def choose (other : Reader α) : List (String × Reader α) → Reader α
  | [] => other
  | (lead, body) :: more => fun words =>
    match phrase lead words with
    | .ok (_, rest) => body rest
    | .error _ => choose other more words

/-- All words of a statement. -/
def whole (reader : Reader α) (words : List Word) : Except (List Word) α :=
  match reader words with
  | .ok (x, []) => .ok x
  | .ok (_, left) => .error left
  | .error left => .error left

end Reader

/-- Read a text as a query of known columns; where that fails, tell the words that are out of
place. -/
def Query.read (scope : Scope) (sql : String) : Except (List Word) Query :=
  let words := Word.scan 0 sql.toList
  match Reader.whole (Reader.statement scope) words with
  | .ok query => .ok query
  | .error left =>
    Reader.whole (Reader.choose (fun _ => .error left) (Reader.catalog scope)) words

end RecordGateway
