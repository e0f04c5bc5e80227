import RecordGateway.Text.Blank
import RecordGateway.Text.Bytes
/-!
# Locations of databases

What the path of a database means: a file of the folder, or a database without
a file that is gone when it is closed. A path can also be written as an address
with the scheme `file`, percent escapes and parameters.
-/
namespace RecordGateway

inductive Location where
  | transient
  | file (steps : List String) (create : Bool)
deriving DecidableEq

namespace Location

/-- Slashes part the steps of a path, and several count as one. A path from the root leads to no
place that is known. -/
def ofName (create : Bool) (path : String) : Option Location :=
  if path.isEmpty || path = ":memory:" then some .transient
  else if path.toList.head? = some '/' || path.toList.contains '\x00' then none
  else some (.file ((Text.parts '/' path).filter (· ≠ "")) create)

def hexByte? (b : UInt8) : Option UInt8 :=
  if 48 ≤ b ∧ b ≤ 57 then some (b - 48)
  else if 65 ≤ b ∧ b ≤ 70 then some (b - 55)
  else if 97 ≤ b ∧ b ≤ 102 then some (b - 87)
  else none

def unescape : Bytes → Bytes
  | 37 :: a :: b :: rest =>
    match hexByte? a, hexByte? b with
    | some x, some y => (16 * x + y) :: unescape rest
    | _, _ => 37 :: unescape (a :: b :: rest)
  | b :: rest => b :: unescape rest
  | [] => []

/-- A part of an address without its escapes; a zero byte ends it. -/
def unescaped (s : String) : String :=
  Bytes.toText ((unescape (Bytes.ofText s)).takeWhile (· != 0))

/-- What an address asks for: a database without a file, or a file that is only read, written, or
also created. -/
inductive Access where
  | read
  | write
  | create
  | memory
deriving DecidableEq

namespace Access

def ofMode? : String → Option Access
  | "ro" => some read
  | "rw" => some write
  | "rwc" => some create
  | "memory" => some memory
  | _ => none

/-- A later mode may not ask for more than the one before. A database without a file gives up
nothing and takes anything. -/
def rank : Access → Nat
  | read => 1
  | write => 2
  | create => 3
  | memory => 4

def restrict (current : Access) (mode : String) : Option Access :=
  match ofMode? mode with
  | none => none
  | some memory => some memory
  | some asked => if asked.rank ≤ current.rank then some asked else none

def location (path : String) : Access → Option Location
  | memory => some .transient
  | access => ofName (access = create) path

end Access

/-- Drop a host, which may only be this one. -/
def withoutHost : List Char → Option (List Char)
  | '/' :: '/' :: rest =>
    let host := String.ofList (rest.takeWhile (· != '/'))
    if host = "" ∨ host = "localhost" then some (rest.dropWhile (· != '/')) else none
  | cs => some cs

def parameters (s : String) : List (String × String) :=
  (Text.parts '&' s).map fun part =>
    match Text.cut '=' part with
    | some (name, v) => (unescaped name, unescaped v)
    | none => (unescaped part, "")

def goodCache (s : String) : Bool := s == "shared" || s == "private"

def fileStores : List String := ["unix", "unix-none", "unix-dotfile", "unix-excl"]

def memoryStore : String := "memdb"

def valuesOf (name : String) (given : List (String × String)) : List String :=
  (given.filter fun p => p.1 == name).map Prod.snd

/-- An address after its scheme. Each of several modes restricts the access, all of several
caches must be known, and of several ways of storing the last counts. -/
def ofAddress (create : Bool) (cs : List Char) : Option Location :=
  (withoutHost cs).bind fun cs =>
    let cs := cs.takeWhile (· != '#')
    let path := unescaped (String.ofList (cs.takeWhile (· != '?')))
    let given := parameters (String.ofList ((cs.dropWhile (· != '?')).drop 1))
    let first : Access := if create then .create else .write
    let store := (valuesOf "vfs" given).getLastD "unix"
    if !(valuesOf "cache" given).all goodCache then none
    else ((valuesOf "mode" given).foldlM Access.restrict first).bind fun access =>
      if store = memoryStore then some .transient
      else if fileStores.contains store then access.location path
      else none

def scheme : List Char := "file:".toList

def ofPath (create : Bool) (path : String) : Option Location :=
  if scheme.isPrefixOf path.toList then ofAddress create (path.toList.drop scheme.length)
  else ofName create path

end Location
end RecordGateway
