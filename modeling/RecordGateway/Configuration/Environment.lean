import RecordGateway.Configuration
/-!
# Environment variables

The part of an environment that configures the program: the variables with its
prefix, in any case. What follows the prefix is a path in which two underscores
stand between keys, and the text of the variable is read as the plainest value
that it can stand for.
-/
namespace RecordGateway.Configuration

def environmentPrefix : String := "tablegate__"

/-- Replace two neighbouring underscores by a full stop, from left to right. -/
def dotted : List Char → List Char
  | '_' :: '_' :: rest => '.' :: dotted rest
  | c :: rest => c :: dotted rest
  | [] => []

def variableKey? (name : String) : Option String :=
  let known := (Text.lower name).toList
  if environmentPrefix.toList.isPrefixOf known then
    some (String.ofList (dotted (known.drop environmentPrefix.length)))
  else none

/-- A truth value, an integer, a number, or else the text itself. -/
def variableValue (s : String) : Value :=
  let word := Text.lower s
  if word = "true" then .boolean true
  else if word = "false" then .boolean false
  else match readInt64 s.toList with
    | some i => .integer i
    | none =>
      match readBinary64 s.toList with
      | some x => .real x
      | none => .text s

def ofEnvironment (environment : List (String × String)) : List (String × Configuration) :=
  environment.filterMap fun (name, s) =>
    (variableKey? name).map fun key => (key, value (variableValue s))

end RecordGateway.Configuration
