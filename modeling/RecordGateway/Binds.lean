import RecordGateway.Keyed
import RecordGateway.Value
/-!
# Bind lists

Named parameter values of a prepared statement. Every name carries a leading
colon, which is put in front of a name that comes without one.
-/
namespace RecordGateway

structure Binds where
  values : Keyed Value
deriving DecidableEq, Inhabited

namespace Binds

def empty : Binds := ⟨Keyed.empty⟩

def parameterName (name : String) : String :=
  if name.toList.head? = some ':' then name else ":" ++ name

def bind (binds : Binds) (name : String) (value : Value) : Binds :=
  ⟨binds.values.insert (parameterName name) value⟩

def extend (binds : Binds) (entries : List (String × Value)) : Binds :=
  entries.foldl (fun b e => b.bind e.1 e.2) binds

def ofList (entries : List (String × Value)) : Binds := empty.extend entries

def entries (binds : Binds) : List (String × Value) := binds.values.entries

/-- The value bound to a name; the name has to carry its colon. -/
def get? (binds : Binds) (name : String) : Option Value := binds.values.get? name

def size (binds : Binds) : Nat := binds.values.size

def isEmpty (binds : Binds) : Bool := binds.values.isEmpty

def entryText : String × Value → String
  | (name, .text s) => name ++ "=" ++ (Value.text s).quotedLiteral
  | (name, value) => name ++ "=" ++ value.display

def display (binds : Binds) : String := String.intercalate ", " (binds.entries.map entryText)

end Binds
end RecordGateway
