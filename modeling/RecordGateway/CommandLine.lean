import RecordGateway.CommandLine.Grammar
import RecordGateway.CommandLine.Query
/-!
# The command line

The arguments of the program: a configuration file and a database for all
commands, and one of the commands `tables`, `columns`, `indexes` and `select`.
-/
namespace RecordGateway.CommandLine

structure Arguments where
  config : Option String
  database : Option String
  command : Command
deriving DecidableEq

def topGrammar : Grammar :=
  { options :=
      [{ long := "config", letter := some 'c', filled := true },
       { long := "database", letter := some 'd' }]
    subcommands := ["tables", "columns", "indexes", "select", "help"] }

def tablesGrammar : Grammar := { options := [], positional := true }

def columnsGrammar : Grammar := { options := [{ long := "like" }], positional := true }

def indexesGrammar : Grammar := { options := [], positional := true }

def selectGrammar : Grammar :=
  { options :=
      [{ long := "where", letter := some 'w', repeatable := true },
       { long := "order", letter := some 'o', repeatable := true },
       { long := "limit", letter := some 'l' },
       { long := "sql", takesValue := false }]
    positional := true }

def readCommand (g : Grammar) (args : List String) : Except UsageError Reading := do
  (← readLevel g false {} args).1.settle

def requirePositional (r : Reading) : Except UsageError String :=
  match r.positional with
  | some table => .ok table
  | none => .error .missingRequiredArgument

def readSubcommand (name : String) (args : List String) : Except UsageError Command :=
  match name with
  | "tables" => do
    return .tables (← readCommand tablesGrammar args).positional
  | "columns" => do
    let r ← readCommand columnsGrammar args
    return .columns (← requirePositional r) (r.value? "like")
  | "indexes" => do
    return .indexes (← requirePositional (← readCommand indexesGrammar args))
  | "select" => do
    let r ← readCommand selectGrammar args
    return .select (← requirePositional r) (r.values "where") (r.values "order")
      (r.value? "limit") (r.value? "sql").isSome
  | _ => helpOn args
where
  helpOn : List String → Except UsageError Command
    | [] => .error .displayHelp
    | [topic] =>
      if topGrammar.subcommands.contains topic then .error .displayHelp
      else .error .invalidSubcommand
    | _ => .error .invalidSubcommand

def read (args : List String) : Except UsageError Arguments := do
  match ← readLevel topGrammar false {} args with
  | (r, some (name, rest)) =>
    let command ← readSubcommand name rest
    let r ← r.settle
    return ⟨r.value? "config", r.value? "database", command⟩
  | (r, none) =>
    let r ← r.settle
    throw (if r.found.isEmpty then .displayHelpOnMissing else .missingSubcommand)

end RecordGateway.CommandLine
