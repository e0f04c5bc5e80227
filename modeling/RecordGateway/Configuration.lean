import RecordGateway.Keyed
import RecordGateway.Number.Decimal
import RecordGateway.Value
/-!
# Configurations

Trees of tables, lists and plain values, and the merging of a later source into
an earlier one at a path. Keys are told apart without regard to the case of
ASCII letters, so they are kept in small letters.
-/
namespace RecordGateway

inductive Configuration where
  | value (v : Value)
  | list (items : List Configuration)
  | table (entries : List (String × Configuration))

namespace Configuration

def empty : Configuration := table []

instance : Inhabited Configuration := ⟨empty⟩

def entries : Configuration → List (String × Configuration)
  | table es => es
  | _ => []

def items : Configuration → List Configuration
  | list cs => cs
  | _ => []

def get? (c : Configuration) (key : String) : Option Configuration := entryAt key c.entries

mutual

/-- Lay a configuration over an older one. A table is merged into a table and replaces anything
else, unless it is empty; a list or a value replaces what is there. -/
def overlay (old : Configuration) : Configuration → Configuration
  | table [] => old
  | table (entry :: rest) => table (overlayEntries old.entries (entry :: rest))
  | other => other

def overlayEntries (old : List (String × Configuration)) :
    List (String × Configuration) → List (String × Configuration)
  | [] => old
  | (key, c) :: rest =>
    let known := Text.lower key
    overlayEntries (putEntry known (overlay ((entryAt known old).getD empty) c) old) rest

end

/-! ## Paths -/

/-- One step down: to a key of a table, or to a place in a list, which is counted from the end
if it is negative. -/
inductive Step where
  | key (name : String)
  | place (index : Int)
deriving DecidableEq

def isKeyChar (c : Char) : Bool := c.isAlphanum || c == '_' || c == '-' || c == ' '

/-- A place, written after its opening bracket: an integer without a plus sign, with spaces and
tabulators around it. -/
def readPlace (cs : List Char) : Option Step :=
  let blank (c : Char) : Bool := c == ' ' || c == '\t'
  match cs.reverse with
  | ']' :: inner =>
    match (inner.dropWhile blank).reverse.dropWhile blank with
    | '+' :: _ => none
    | digits => (readInt64 digits).map fun i => .place i.toInt
  | _ => none

def readSteps (cs : List Char) : Option (List Step) :=
  let name := cs.takeWhile isKeyChar
  match name, Text.partsAt '[' (cs.dropWhile isKeyChar) with
  | _ :: _, [] :: places => do
    let steps ← places.mapM readPlace
    return .key (String.ofList name) :: steps
  | _, _ => none

/-- The path that a key denotes: steps between full stops. A key that does not read as a path
is a single step. -/
def path (key : String) : List Step :=
  match (Text.partsAt '.' key.toList).mapM readSteps with
  | some steps => steps.flatten
  | none => [.key key]

def placeIn (length : Nat) (index : Int) : Nat :=
  if 0 ≤ index then index.toNat else length - index.natAbs

def putItem (place : Nat) (item : Configuration) (items : List Configuration) :
    List Configuration :=
  (items ++ List.replicate (place + 1 - items.length) (value .null)).set place item

/-- Lay a configuration over the one at the end of a path. What stands on the way and has no
such step is replaced by a table or a list that has it. -/
def put (added : Configuration) : List Step → Configuration → Configuration
  | [], c => overlay c added
  | .key name :: rest, c =>
    let known := Text.lower name
    table (putEntry known (put added rest ((entryAt known c.entries).getD empty)) c.entries)
  | [.place index], c => list (putItem (placeIn c.items.length index) added c.items)
  | .place index :: rest, c =>
    let place := placeIn c.items.length index
    list (putItem place (put added rest (c.items.getD place empty)) c.items)

def merge (c : Configuration) (source : List (String × Configuration)) : Configuration :=
  source.foldl (fun c entry => put entry.2 (path entry.1) c) c

/-! ## Typed reading -/

def text? : Configuration → Option String
  | value .null => none
  | value v => some v.display
  | _ => none

def flagWord? (s : String) : Option Bool :=
  let word := Text.lower s
  if ["1", "true", "on", "yes"].contains word then some true
  else if ["0", "false", "off", "no"].contains word then some false
  else none

def flag? : Configuration → Option Bool
  | value (.boolean b) => some b
  | value (.integer i) => some (i != 0)
  | value (.real x) => some (!x.isZero)
  | value (.text s) => flagWord? s
  | _ => none

end Configuration
end RecordGateway
