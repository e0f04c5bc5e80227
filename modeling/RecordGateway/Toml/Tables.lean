import RecordGateway.Configuration
/-!
# Tables under construction

The tables of a document while its lines are read. A table remembers how it
came to be, because that decides what may still be added to it: nothing is ever
defined twice, dotted keys extend only what dotted keys made, and a header
completes only what other headers implied.
-/
namespace RecordGateway.Toml

inductive Origin where
  /-- The document itself, or a table that a header names. -/
  | declared
  /-- A table that a longer header runs through. -/
  | implied
  /-- A table that a dotted key runs through. -/
  | dotted
deriving DecidableEq

inductive Node where
  | leaf (c : Configuration)
  | table (origin : Origin) (entries : List (String × Node))
  /-- The tables of repeated headers, the last one apart. -/
  | tables (earlier : List Node) (last : List (String × Node))

abbrev Nodes := List (String × Node)

mutual

def Node.finished : Node → Configuration
  | .leaf c => c
  | .table _ entries => .table (finishedEntries entries)
  | .tables earlier last => .list (finishedAll earlier ++ [.table (finishedEntries last)])

def finishedAll : List Node → List Configuration
  | [] => []
  | n :: rest => n.finished :: finishedAll rest

def finishedEntries : List (String × Node) → List (String × Configuration)
  | [] => []
  | (key, n) :: rest => (key, n.finished) :: finishedEntries rest

end

/-- Change the table at the end of a path. Missing tables on the way are made, of a given origin.
A table that a header names is closed to dotted keys; of repeated tables the last is meant. -/
def alter (made : Origin) (change : Origin → Nodes → Option Nodes) :
    List String → Origin → Nodes → Option Nodes
  | [], origin, nodes => change origin nodes
  | key :: path, _, nodes =>
    match entryAt key nodes with
    | none =>
      (alter made change path made []).map fun inner => putEntry key (.table made inner) nodes
    | some (.leaf _) => none
    | some (.table origin inner) =>
      if made = .dotted ∧ origin = .declared then none
      else (alter made change path origin inner).map fun inner =>
        putEntry key (.table origin inner) nodes
    | some (.tables earlier last) =>
      (alter made change path .declared last).map fun last =>
        putEntry key (.tables earlier last) nodes

/-- Give a key that is new to a table its value. A dotted key may only end in a table that dotted
keys made, and a plain key never does. -/
def define (isDotted : Bool) (key : String) (c : Configuration) (origin : Origin)
    (nodes : Nodes) : Option Nodes :=
  if (origin = .dotted) != isDotted || (entryAt key nodes).isSome then none
  else some (putEntry key (.leaf c) nodes)

def splitLast (path : List String) : List String × String :=
  (path.dropLast, path.getLastD "")

def assign (path : List String) (c : Configuration) (origin : Origin) (nodes : Nodes) :
    Option Nodes :=
  let (tables, key) := splitLast path
  alter .dotted (define (!tables.isEmpty) key c) tables origin nodes

def declareTable (path : List String) (nodes : Nodes) : Option Nodes :=
  let (tables, key) := splitLast path
  let declare (_ : Origin) (nodes : Nodes) : Option Nodes :=
    match entryAt key nodes with
    | none => some (putEntry key (.table .declared []) nodes)
    | some (.table .implied entries) => some (putEntry key (.table .declared entries) nodes)
    | some _ => none
  alter .implied declare tables .declared nodes

def repeatTable (path : List String) (nodes : Nodes) : Option Nodes :=
  let (tables, key) := splitLast path
  let declare (_ : Origin) (nodes : Nodes) : Option Nodes :=
    match entryAt key nodes with
    | none => some (putEntry key (.tables [] []) nodes)
    | some (.tables earlier last) =>
      some (putEntry key (.tables (earlier ++ [.table .declared last]) []) nodes)
    | some _ => none
  alter .implied declare tables .declared nodes

def assignUnder (header path : List String) (c : Configuration) (nodes : Nodes) : Option Nodes :=
  alter .implied (assign path c) header .declared nodes

end RecordGateway.Toml
