import RecordGateway.Configuration.Environment
import RecordGateway.Dialect
import RecordGateway.Toml
/-!
# Settings

Which database to open and how, and what to log. A setting comes from the
environment if it is there, else from a configuration file, else it has its
default. Unknown settings are passed over.
-/
namespace RecordGateway

structure DatabaseSettings where
  path : String := ":memory:"
  dialect : Dialect := .sqlite
  createIfMissing : Bool := true
deriving DecidableEq

structure Settings where
  database : DatabaseSettings := {}
  logFilter : String := "warn"
deriving DecidableEq

def Dialect.ofName? (name : String) : Option Dialect :=
  let known := Text.lower name
  if known = "mysql" ∨ known = "mariadb" then some .mysql
  else if known = "sqlite" then some .sqlite
  else none

namespace Configuration

/-- The name of a dialect, or a table with that name as its only key. -/
def dialect? : Configuration → Option Dialect
  | value (.text name) => Dialect.ofName? name
  | table [(name, _)] => Dialect.ofName? name
  | _ => none

def orDefault {α : Type} (read : Configuration → Option α) (default : α) :
    Option Configuration → Option α
  | none => some default
  | some c => read c

end Configuration

namespace DatabaseSettings

def ofParts (path dialect createIfMissing : Option Configuration) : Option DatabaseSettings := do
  let path ← Configuration.orDefault Configuration.text? ":memory:" path
  let dialect ← Configuration.orDefault Configuration.dialect? .sqlite dialect
  let create ← Configuration.orDefault Configuration.flag? true createIfMissing
  return ⟨path, dialect, create⟩

/-- A table has the settings by name, a list by position. -/
def ofConfiguration : Configuration → Option DatabaseSettings
  | .table entries =>
    ofParts (entryAt "path" entries) (entryAt "dialect" entries)
      (entryAt "create_if_missing" entries)
  | .list items => ofParts items[0]? items[1]? items[2]?
  | .value _ => none

end DatabaseSettings

namespace Settings

def ofConfiguration (c : Configuration) : Option Settings := do
  let database ←
    Configuration.orDefault DatabaseSettings.ofConfiguration {} (c.get? "database")
  let logFilter ← Configuration.orDefault Configuration.text? "warn" (c.get? "log_filter")
  return ⟨database, logFilter⟩

/-- The settings from the entries of a file and from an environment, which counts more. -/
def ofSources (file : List (String × Configuration)) (environment : List (String × String)) :
    Except Failure Settings :=
  match ofConfiguration
      ((Configuration.empty.merge file).merge (Configuration.ofEnvironment environment)) with
  | some settings => .ok settings
  | none => .error .configuration

def load (file : Option String) (environment : List (String × String)) :
    Except Failure Settings :=
  match file with
  | none => ofSources [] environment
  | some text =>
    match Toml.read text with
    | some entries => ofSources entries environment
    | none => .error .configuration

end Settings
end RecordGateway
