import RecordGateway.Dialect.Identifier
import RecordGateway.Number.Approximate
import RecordGateway.Template
import RecordGateway.Value.Cell
/-!
# Terms

The SQL expressions that the store understands: column names, plain or in
quotes, parameters, and constants, with or without signs. The words for the
present date and time are constants too, since the clock of the store stands
still.
-/
namespace RecordGateway

inductive Term where
  | column (name : String)
  /-- A name that stands for a constant where no column has it: a text in double quotes, or a
  truth value. -/
  | columnOr (name : String) (otherwise : Cell)
  | parameter (name : String)
  | constant (cell : Cell)
  | signed (minus : Bool) (term : Term)
deriving DecidableEq

namespace Term

def unquote (quote : Char) : List Char → Option (List Char)
  | [] => none
  | [c] => if c = quote then some [] else none
  | c :: d :: rest =>
    if c = quote then
      if d = quote then (unquote quote rest).map (quote :: ·) else none
    else (unquote quote (d :: rest)).map (c :: ·)

def isNameStart (c : Char) : Bool := isWordStart c || 0x80 ≤ c.toNat

def isNameChar (c : Char) : Bool := isWordChar c || c == '$' || 0x80 ≤ c.toNat

def isName : List Char → Bool
  | [] => false
  | c :: rest => isNameStart c && rest.all isNameChar

/-- The words that are no names where they stand without quotes. -/
def reservedWords : List String :=
  ["ADD", "ALL", "ALTER", "AND", "AS", "AUTOINCREMENT", "BETWEEN", "CASE", "CHECK", "COLLATE",
   "COMMIT", "CONSTRAINT", "CREATE", "DEFAULT", "DEFERRABLE", "DELETE", "DISTINCT", "DROP", "ELSE",
   "ESCAPE", "EXCEPT", "EXISTS", "FOREIGN", "FROM", "GROUP", "HAVING", "IN", "INDEX", "INSERT",
   "INTERSECT", "INTO", "IS", "ISNULL", "JOIN", "LIMIT", "NOT", "NOTHING", "NOTNULL", "NULL", "ON",
   "OR", "ORDER", "PRIMARY", "REFERENCES", "RETURNING", "SELECT", "SET", "TABLE", "THEN", "TO",
   "TRANSACTION", "UNION", "UNIQUE", "UPDATE", "USING", "VALUES", "WHEN", "WHERE"]

/-- The words that start an expression of their own. Some of them are names elsewhere. -/
def openingWords : List String := ["CASE", "CAST", "EXISTS", "NOT", "RAISE"]

def opens (word : String) : Bool := openingWords.contains (Text.upper word)

def readPlainName (cs : List Char) : Option String :=
  let name := String.ofList cs
  if isName cs && !reservedWords.contains (Text.upper name) then some name else none

def readName (s : String) : Option String :=
  match (Text.trimAscii s).toList with
  | '`' :: rest => (unquote '`' rest).map String.ofList
  | '"' :: rest => (unquote '"' rest).map String.ofList
  | '\'' :: rest => (unquote '\'' rest).map String.ofList
  | '[' :: rest =>
    match Text.cutAt ']' rest with
    | some (name, []) => some (String.ofList name)
    | _ => none
  | cs => readPlainName cs

def readNumber (cs : List Char) : Option Cell :=
  match readInt64 cs with
  | some i => some (.integer i)
  | none => (Decimal.read? cs).map fun d => .real d.nearby

def hexDigit? (c : Char) : Option Nat :=
  if c.isDigit then some (digitValue c)
  else if 'a' ≤ c.toLower ∧ c.toLower ≤ 'f' then some (c.toLower.toNat - 'a'.toNat + 10)
  else none

def hexPairs : List Char → Option Bytes
  | [] => some []
  | a :: b :: rest =>
    match hexDigit? a, hexDigit? b, hexPairs rest with
    | some high, some low, some bytes => some (UInt8.ofNat (16 * high + low) :: bytes)
    | _, _, _ => none
  | _ => none

def readColumn (word : String) : Option Term :=
  match readName word, Text.cut '.' word with
  | some name, _ => some (column name)
  | none, some (table, name) =>
    match readName table, readName name with
    | some table, some name => some (column (table ++ "." ++ name))
    | _, _ => none
  | none, none => none

/-- What the clock shows under the words that ask it. -/
def clock : List (String × String) :=
  [("CURRENT_DATE", "2000-01-01"), ("CURRENT_TIME", "00:00:00"),
   ("CURRENT_TIMESTAMP", "2000-01-01 00:00:00")]

def asksClock (word : String) : Bool := clock.any fun e => e.1 == Text.upper word

def readWord (cs : List Char) : Option Term :=
  let word := String.ofList cs
  match Text.upper word with
  | "NULL" => some (.constant .null)
  | "TRUE" => some (columnOr word (.integer 1))
  | "FALSE" => some (columnOr word (.integer 0))
  | upper =>
    match clock.lookup upper with
    | some shown => some (constant (.text (Bytes.ofText shown)))
    | none => if opens word then none else readColumn word

def readUnsigned : List Char → Option Term
  | [] => none
  | ':' :: rest =>
    if !rest.isEmpty && rest.all isNameChar then some (parameter (String.ofList (':' :: rest)))
    else none
  | '\'' :: rest =>
    (unquote '\'' rest).map fun cs => constant (.text (Bytes.ofText (String.ofList cs)))
  | '"' :: rest =>
    (unquote '"' rest).map fun cs =>
      columnOr (String.ofList cs) (.text (Bytes.ofText (String.ofList cs)))
  | c :: rest =>
    if (c = 'x' ∨ c = 'X') ∧ rest.head? = some '\'' then
      (unquote '\'' rest.tail).bind fun cs => (hexPairs cs).map fun bytes => constant (.blob bytes)
    else if c.isDigit || c == '.' then (readNumber (c :: rest)).map constant
    else readWord (c :: rest)

/-- Take the signs and the white space off the front; `true` stands for a minus. Two adjacent
minus signs would start a comment and are left. -/
def takeSigns : List Char → List Bool × List Char
  | [] => ([], [])
  | c :: rest =>
    let (signs, body) := takeSigns rest
    if Text.isAsciiBlank c then (signs, body)
    else if c = '+' then (false :: signs, body)
    else if c = '-' ∧ rest.head? ≠ some '-' then (true :: signs, body)
    else ([], c :: rest)

/-- Read SQL text as a term. A sign directly before a number is part of the number. -/
def read (s : String) : Option Term :=
  let cs := (Text.trimAscii s).toList
  match readNumber cs with
  | some cell => some (constant cell)
  | none =>
    let (signs, body) := takeSigns cs
    (readUnsigned body).map fun term => signs.foldr signed term

def depth : Term → Nat
  | signed _ term => 1 + term.depth
  | _ => 1

def columnName? : Term → Option String
  | column name => some name
  | signed _ term => term.columnName?
  | _ => none

def parameterName? : Term → Option String
  | parameter name => some name
  | signed _ term => term.parameterName?
  | _ => none

end Term

end RecordGateway
