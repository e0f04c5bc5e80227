import RecordGateway.Binds
import RecordGateway.Dialect
import RecordGateway.Record
/-!
# Requests of a gateway

The statements by which a gateway reads and writes its table, each with the
binds it runs with. Every value travels as a bind; the statement text holds
only names. The name of a bind is made from the field it is for.
-/
namespace RecordGateway

structure Filter where
  field : String
  relation : String
  value : Value
deriving DecidableEq

def Filter.eq (field : String) (value : Value) : Filter := ⟨field, "=", value⟩

structure Request where
  statement : Statement
  binds : Binds

/-- The field with an underscore for every character that is no ASCII letter, digit or
underscore. -/
def sanitized (field : String) : String :=
  String.ofList (field.toList.map fun c => if isWordChar c then c else '_')

def isBound (binds : Binds) (name : String) : Bool := (binds.get? (":" ++ name)).isSome

/-- The first of `base_k`, `base_(k+1)`, … that is not bound, among the given number of them. -/
def freeSuffix (base : String) (binds : Binds) : Nat → Nat → String
  | 0, k => base ++ "_" ++ k.repr
  | tries + 1, k =>
    if isBound binds (base ++ "_" ++ k.repr) then freeSuffix base binds tries (k + 1)
    else base ++ "_" ++ k.repr

/-- A name for a field that is not bound yet: the lead and the sanitized field, followed by
`_2`, `_3`, … as far as that is taken. With `n` binds one of the first `n + 1` names is free. -/
def bindName (lead field : String) (binds : Binds) : String :=
  let base := lead ++ sanitized field
  if isBound binds base then freeSuffix base binds binds.size 2 else base

def onTable (verb : Verb) (table : String) : Statement :=
  { Statement.empty with kind := some verb.kind, table := some table }

theorem onTable_startAs (verb : Verb) (table : String) :
    (Statement.startAs verb (some table)).made .empty = .ok (onTable verb table) := rfl

def filterConditions : List Filter → Binds → List Predicate × Binds
  | [], binds => ([], binds)
  | f :: rest, binds =>
    let name := bindName "" f.field binds
    let (conditions, bound) := filterConditions rest (binds.bind name f.value)
    (.condition (.verbatim f.field f.relation (":" ++ name)) :: conditions, bound)

def selection (table : String) (filters : List Filter) (order : List Ordered) : Request :=
  let (conditions, binds) := filterConditions filters .empty
  { statement :=
      { onTable .source table with
        filter := if filters.isEmpty then none else some (.all conditions)
        order := order }
    binds := binds }

def boundOperands (lead : String) :
    List (String × Value) → Binds → List (String × Operand) × Binds
  | [], binds => ([], binds)
  | (field, value) :: rest, binds =>
    let name := bindName lead field binds
    let (operands, bound) := boundOperands lead rest (binds.bind name value)
    ((field, ⟨.text (":" ++ name), false⟩) :: operands, bound)

/-- One condition for each column of a row. A null is found by IS NULL, since no comparison
with null holds. -/
def matchConditions : List (String × Value) → Binds → List Predicate × Binds
  | [], binds => ([], binds)
  | (field, value) :: rest, binds =>
    if value.isNull then
      let (conditions, bound) := matchConditions rest binds
      (.condition (.verbatim (quoteIdentifier field) "IS" "NULL") :: conditions, bound)
    else
      let name := bindName "o_" field binds
      let (conditions, bound) := matchConditions rest (binds.bind name value)
      (.condition (.verbatim (quoteIdentifier field) "=" (":" ++ name)) :: conditions, bound)

def insertion (table : String) (record : Record) : Request :=
  let (operands, binds) := boundOperands "" record.entries .empty
  ⟨{ onTable .insertInto table with columns := operands }, binds⟩

def replacement (table : String) (previous current : Record) : Request :=
  let (operands, bound) := boundOperands "n_" current.entries .empty
  let (conditions, binds) := matchConditions previous.entries bound
  { statement :=
      { onTable .update table with
        sets := Keyed.ofList operands
        filter := some (.all conditions) }
    binds := binds }

def removal (table : String) (record : Record) : Request :=
  let (conditions, binds) := matchConditions record.entries .empty
  ⟨{ onTable .deleteFrom table with filter := some (.all conditions) }, binds⟩

end RecordGateway
