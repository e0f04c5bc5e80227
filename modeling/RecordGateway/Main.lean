import RecordGateway.CommandLine.Run
/-!
# The program

Reads the environment, the arguments and the files that they speak of, runs the
command, prints its answer or complaint and makes the files that it leaves. A
database that has tables is not read from its file.
-/
open RecordGateway

def processEnvironment : IO (List (String × String)) := do
  try
    let listed ← IO.FS.readFile "/proc/self/environ"
    return (Text.parts '\x00' listed).filterMap (Text.cut '=')
  catch _ => return []

/-- A file, if it is there. What is not a text stands for a document of some length. -/
def readEntry (name : String) : IO (Option (String × File)) := do
  try return some (name, .document (← IO.FS.readFile name))
  catch
    | .noFileOrDirectory .. => return none
    | .inappropriateType .. => return some (name, .directory)
    | _ => return some (name, .document "\x00\x00")

def readFolder (names : List String) : IO Folder := do
  return ⟨Keyed.ofList (← names.filterMapM readEntry)⟩

def configurationNames (asked : Option String) : List String :=
  let found := Folder.localName? (asked.getD Folder.defaultName)
  let name := (found.map Prod.fst).getD Folder.defaultName
  [name, name ++ Folder.extension]

def databaseNames (settings : Except Failure Settings) : List String :=
  match settings with
  | .error _ => []
  | .ok s =>
    match Location.ofPath s.database.createIfMissing s.database.path with
    | some (.file steps _) => steps.filter fun step => step ≠ "." && step ≠ ".."
    | _ => []

def folderFor (environment : List (String × String)) (args : List String) : IO Folder := do
  match CommandLine.read args with
  | .error _ => readFolder []
  | .ok arguments =>
    let names := configurationNames arguments.config
    let folder ← readFolder names
    readFolder (names ++ databaseNames (CommandLine.settings folder environment arguments))

def main (args : List String) : IO UInt32 := do
  let environment ← processEnvironment
  let folder ← folderFor environment args
  let outcome := CommandLine.run folder environment args
  for name in outcome.folder.files.keys do
    if (folder.files.get? name).isNone then IO.FS.writeFile name ""
  IO.print outcome.output
  if let some complaint := outcome.complaint then IO.eprintln complaint
  return UInt32.ofNat outcome.exitCode
