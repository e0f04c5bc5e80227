import RecordGateway.Store.Reader
import RecordGateway.Store.Selection
/-!
# Refusals

Why a text cannot be prepared: it stops being a statement that the store understands, or it names
a column that there is none of. A cause comes with the place in the text where it was met, if it
has one.
-/
namespace RecordGateway.Refusal

def noSuchColumn (name : String) : String := "no such column: " ++ name

def syntaxError (token : String) : String := "near \"" ++ token ++ "\": syntax error"

def unrecognized (token : String) : String := "unrecognized token: \"" ++ token ++ "\""

def located (sql : String) (word : Word) (cause : String) : String :=
  cause ++ " in " ++ sql ++ " at offset " ++ (sql.utf8ByteSize - word.size).repr

/-- The cause for a text whose words cannot be read from the given ones on. -/
def notUnderstood (sql : String) : List Word → String
  | [] => "incomplete input"
  | word :: _ =>
    located sql word (if word.isLegal then syntaxError word.text else unrecognized word.text)

/-- The cause for a query that names a column outside of a scope. -/
def unknownColumn (sql : String) (scope : Scope) : Option String :=
  match Query.read scope sql with
  | .ok _ => none
  | .error [] => none
  | .error (word :: rest) =>
    match Reader.term (fun _ => true) (word :: rest) with
    | .error _ => none
    | .ok (text, _) =>
      ((Term.read text).bind Term.columnName?).map fun name => located sql word (noSuchColumn name)

/-- The scope in which the same columns are known everywhere. -/
def known (names : List String) : Scope :=
  ⟨fun name => names.any (Text.sameName name), fun name => names.any (Text.sameName name)⟩

def selectionScope (t : Table) (q : Selection) : Scope :=
  { known (t.names ++ Selection.givenNames q.items) with listed := (known t.names).listed }

def hasName (t : Table) (name : String) : Bool := (t.position? name).isSome || Table.isIdName name

def isUnknown (names : List String) (text : String) : Bool :=
  ((Term.read text).bind Term.columnName?).any fun name => !(known names).known name

/-- An update is refused for the first assignment with an unknown column in its value or for its
field, in this order. -/
def ofUpdate (t : Table) (sql : String) (sets : List (String × String)) : Option String :=
  match sets.findIdx? fun e => !hasName t e.1 with
  | none => unknownColumn sql (known t.names)
  | some i =>
    if (sets.take (i + 1)).any fun e => isUnknown t.names e.2 then
      unknownColumn sql (known t.names)
    else sets[i]?.map fun e => noSuchColumn e.1

def ofInsert (t : Table) (sql name : String) (columns values : List String) : Option String :=
  match columns.find? fun c => !hasName t c with
  | some column => some ("table " ++ name ++ " has no column named " ++ column)
  | none =>
    (unknownColumn sql (known [])).or
      (if values.length = columns.length then none
        else some (values.length.repr ++ " values for " ++ columns.length.repr ++ " columns"))

def maxDepth : Nat := 1000

def tooDeep (q : Query) : Option String :=
  if q.filter.any fun p => maxDepth < p.depth then
    some ("Expression tree is too large (maximum depth " ++ maxDepth.repr ++ ")")
  else none

end RecordGateway.Refusal
