import RecordGateway.CommandLine
import RecordGateway.Folder
import RecordGateway.Grid
/-!
# Running a command

What the program prints for its arguments, in a folder and an environment, what
it complains of, with which exit code it ends, and what it leaves in the folder.
-/
namespace RecordGateway.CommandLine

structure Outcome where
  exitCode : Nat
  output : String
  complaint : Option String
  folder : Folder

def settings (folder : Folder) (environment : List (String × String)) (arguments : Arguments) :
    Except Failure Settings :=
  (folder.settings arguments.config environment).map fun s =>
    { s with database.path := arguments.database.getD s.database.path }

def browse (folder : Folder) (database : DatabaseSettings) (s : Statement) :
    Except Failure String × Folder :=
  match folder.openDatabase database with
  | .error e => (.error e, folder)
  | .ok (store, after) => ((Store.connection.query s store).1.map Grid.report, after)

def perform (folder : Folder) (environment : List (String × String)) (arguments : Arguments) :
    Except ArgumentError String × Folder :=
  match settings folder environment arguments, arguments.command.statement with
  | .error e, _ => (.error (.refused e), folder)
  | .ok _, .error e => (.error e, folder)
  | .ok settings, .ok s =>
    if arguments.command.printOnly then (lift (s.evaluate settings.database.dialect), folder)
    else
      let (shown, after) := browse folder settings.database s
      (lift shown, after)

/-- The exit code for arguments that cannot be read: asking for help is not an error. -/
def UsageError.exitCode : UsageError → Nat
  | displayHelp => 0
  | _ => 2

def run (folder : Folder) (environment : List (String × String)) (args : List String) : Outcome :=
  match read args with
  | .error e => ⟨e.exitCode, "", some e.text, folder⟩
  | .ok arguments =>
    match perform folder environment arguments with
    | (.ok text, after) => ⟨0, text ++ "\n", none, after⟩
    | (.error e, after) => ⟨1, "", some e.message, after⟩

end RecordGateway.CommandLine
