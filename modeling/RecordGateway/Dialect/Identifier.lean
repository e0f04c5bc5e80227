import RecordGateway.Text.Blank
/-!
# Identifiers

A column name is written as it is when it is a plain ASCII identifier and no
reserved word in any letter case. Any other name stands between backticks, with
the backticks in it doubled.
-/
namespace RecordGateway

def reservedWords : List String :=
  ["ALL", "AND", "AS", "BY", "CASE", "CHECK", "COLUMN", "CREATE", "DEFAULT", "DELETE", "DESC",
   "DISTINCT", "DROP", "FROM", "GROUP", "HAVING", "IN", "INDEX", "INSERT", "INTO", "IS", "JOIN",
   "KEY", "LIKE", "LIMIT", "NOT", "NULL", "OR", "ORDER", "PRIMARY", "SELECT", "SET", "TABLE",
   "TO", "UNIQUE", "UPDATE", "VALUES", "WHERE"]

def isReserved (name : String) : Bool := reservedWords.contains (Text.upper name)

def isWordStart (c : Char) : Bool := c.isAlpha || c == '_'

def isWordChar (c : Char) : Bool := c.isAlphanum || c == '_'

/-- An ASCII letter or underscore, then letters, digits and underscores. -/
def isPlainIdentifier : List Char → Bool
  | [] => false
  | c :: rest => isWordStart c && rest.all isWordChar

def quoteIdentifier (name : String) : String :=
  if isPlainIdentifier name.toList && !isReserved name then name
  else String.ofList ('`' :: (Text.doubled '`' name.toList ++ ['`']))

end RecordGateway
