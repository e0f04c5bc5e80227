import RecordGateway.Folder.Location
import RecordGateway.Settings
import RecordGateway.Store
/-!
# Folders

The files of one folder, among them configuration files and databases. Looking
up a configuration file leaves a folder as it is; opening a database may add
the file of a new one.
-/
namespace RecordGateway

inductive File where
  | document (text : String)
  | database (store : Store)
  | directory

structure Folder where
  files : Keyed File

namespace Folder

def defaultName : String := "tablegate"

def extension : String := ".toml"

def hasExtension (name : String) : Bool :=
  extension.length < name.length && extension.toList.isSuffixOf name.toList

/-- The file name at the end of a path that stays in the folder, and whether nothing comes after
it. Slashes and full stops after the name are passed over. -/
def localName? (path : String) : Option (String × Bool) :=
  let idle (part : String) : Bool := part.isEmpty || part = "."
  let parts := Text.parts '/' path
  match parts.reverse.dropWhile idle with
  | [] => none
  | name :: above =>
    let stays := above.reverse.zipIdx.all fun (part, place) =>
      part = "." || (part.isEmpty && 0 < place)
    if stays && name ≠ ".." && !path.toList.contains '\x00' then
      some (name, parts.length = above.length + 1)
    else none

/-- The text of a configuration file. A file of exactly the name counts if it has the right
extension; only if there is none the name is tried with the extension added. Files in other formats
than TOML (JSON, YAML, INI, RON) are not looked for. -/
def configurationAt (folder : Folder) (path : String) : Option String :=
  (localName? path).bind fun (name, exact) =>
    let extended : Option String := match folder.files.get? (name ++ extension) with
      | some (.document text) => some text
      | _ => none
    match folder.files.get? name with
    | some (.document text) =>
      if exact then (if hasExtension name then some text else none) else extended
    | some (.database _) => if exact then none else extended
    | _ => extended

/-- Load the settings. A configuration file that is asked for must be there, the default one
need not. -/
def settings (folder : Folder) (asked : Option String) (environment : List (String × String)) :
    Except Failure Settings :=
  match asked with
  | none => Settings.load (folder.configurationAt defaultName) environment
  | some path =>
    match folder.configurationAt path with
    | some text => Settings.load (some text) environment
    | none => .error .configuration

/-- A place reached by steps: how many folders above this one, and the names from there on, the
last one first. -/
structure Place where
  above : Nat
  names : List String
deriving DecidableEq

def nameLimit : Nat := 255

def reachable (folder : Folder) (place : Place) (name : String) : Bool :=
  name.utf8ByteSize ≤ nameLimit &&
    match place.above, place.names.getLast? with
    | 0, some first => match folder.files.get? first with
      | none => true
      | some .directory => true
      | some _ => false
    | _, _ => true

/-- Take one step. A step up undoes the step before it, whether or not that led anywhere. -/
def step (folder : Folder) (place : Place) (name : String) : Option Place :=
  if name = "." then some place
  else if name = ".." then
    match place.names with
    | [] => some ⟨place.above + 1, []⟩
    | _ :: names => some ⟨place.above, names⟩
  else if folder.reachable place name then some { place with names := name :: place.names }
  else none

/-- Open the database file of a name. A document without text, or of a single byte, is an empty
database. -/
def openFile (folder : Folder) (create : Bool) (name : String) : Except Failure (Store × Folder) :=
  match folder.files.get? name with
  | some (.database store) => .ok ({ store with lastRowId := 0, changes := 0 }, folder)
  | some (.document text) =>
    if text.utf8ByteSize ≤ 1 then .ok (.empty, folder) else .error .connection
  | some .directory => .error .connection
  | none =>
    if create then .ok (.empty, ⟨folder.files.insert name (.database .empty)⟩)
    else .error .connection

/-- Open a database; the answer is its store and the folder with its file. Above the folder there
are no files, and one created there is not kept track of. -/
def openDatabase (folder : Folder) (settings : DatabaseSettings) :
    Except Failure (Store × Folder) :=
  match Location.ofPath settings.createIfMissing settings.path with
  | none => .error .connection
  | some .transient => .ok (.empty, folder)
  | some (.file steps create) =>
    match steps.foldlM folder.step ⟨0, []⟩ with
    | some ⟨0, [name]⟩ => folder.openFile create name
    | some ⟨_ + 1, [_]⟩ => if create then .ok (.empty, folder) else .error .connection
    | _ => .error .connection

end Folder
end RecordGateway
